import Locator.Text.Attached
import Locator.Text.Unprintable
import Locator.Text.Utf8

namespace Locator.Quoted

def codePoint (c : Char) : List Char :=
  '\\' :: 'u' :: '{' :: (Nat.toDigits 16 c.toNat ++ ['}'])

def charText (c : Char) : List Char :=
  if c = '\x00' then ['\\', '0']
  else if c = '\t' then ['\\', 't']
  else if c = '\r' then ['\\', 'r']
  else if c = '\n' then ['\\', 'n']
  else if c = '"' then ['\\', '"']
  else if c = '\\' then ['\\', '\\']
  else if CharClass.attached.contains c || CharClass.unprintable.contains c then codePoint c
  else [c]

def hexDigit (n : Nat) : Char :=
  if n < 10 then Char.ofNat (48 + n) else Char.ofNat (55 + n)

def byteText (b : UInt8) : List Char :=
  ['\\', 'x', hexDigit (b.toNat / 16), hexDigit (b.toNat % 16)]

def chunkText : Utf8.Chunk → List Char
  | .char c => charText c
  | .stray bytes => bytes.flatMap byteText

def ofChars (s : List Char) : List Char :=
  '"' :: (s.flatMap charText ++ ['"'])

def ofString (s : String) : String :=
  String.ofList (ofChars s.toList)

def ofBytes (bs : Bytes) : String :=
  String.ofList ('"' :: ((Utf8.chunks bs).flatMap chunkText ++ ['"']))

end Locator.Quoted
