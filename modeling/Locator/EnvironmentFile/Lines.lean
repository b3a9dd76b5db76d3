import Locator.Text.CharClass
import Locator.Text.Utf8

/-! An open quote at the end of a line, or a backslash there, joins the line with the next one. -/

namespace Locator.EnvironmentFile

inductive Quoting where
  | plain
  | afterBlank
  | escape
  | strong
  | strongEscape
  | weak
  | weakEscape
deriving DecidableEq, Repr

namespace Quoting

def opening (c : Char) : Quoting :=
  if c = '\\' then .escape
  else if c = '"' then .weak
  else if c = '\'' then .strong
  else .plain

def step (q : Quoting) (c : Char) : Option Quoting :=
  match q with
  | .plain =>
    if CharClass.blank.contains c ∧ c ≠ '\n' ∧ c ≠ '\r' then some .afterBlank else some (opening c)
  | .afterBlank => if c = '#' then none else some (opening c)
  | .escape => some .plain
  | .strong =>
    if c = '\\' then some .strongEscape else if c = '\'' then some .plain else some .strong
  | .strongEscape => some .strong
  | .weak => if c = '\\' then some .weakEscape else if c = '"' then some .plain else some .weak
  | .weakEscape => some .weak

/-- The characters before a comment, and what holds at the end if there is none. -/
def scan (q : Quoting) : List Char → List Char × Option Quoting
  | [] => ([], some q)
  | c :: rest =>
    match q.step c with
    | none => ([], none)
    | some next =>
      let (kept, last) := next.scan rest
      (c :: kept, last)

end Quoting

def newline : UInt8 := 0x0a

def physicalLines (content : Bytes) : List Bytes :=
  let pieces := content.splitOn newline
  pieces.dropLast.map (· ++ [newline]) ++ (pieces.getLast?.filter (· ≠ [])).toList

def dropEnd (s : List Char) : List Char :=
  match s.reverse with
  | '\n' :: '\r' :: rest => rest.reverse
  | '\n' :: rest => rest.reverse
  | _ => s

def isComment (s : List Char) : Bool :=
  (s.dropWhile CharClass.blank.contains).head? = some '#'

/-- The joined lines, up to one that spells no text or is never closed; that one is none. -/
def joinedLines (buffer : List Char) (q : Quoting) : List Bytes → List (Option (List Char))
  | [] => if q = .plain then [] else [none]
  | raw :: rest =>
    match Utf8.decode? raw with
    | none => [none]
    | some text =>
      let line := buffer ++ text.toList
      if isComment line then some [] :: joinedLines [] .plain rest
      else match q.scan text.toList with
        | (kept, none) => some (buffer ++ kept) :: joinedLines [] .plain rest
        | (_, some next) =>
          if next = .plain then some (dropEnd line) :: joinedLines [] .plain rest
          else joinedLines line next rest

def byteOrderMark : Bytes := [0xef, 0xbb, 0xbf]

def lines (content : Bytes) : List (Option (List Char)) :=
  let text := if byteOrderMark.isPrefixOf content then content.drop 3 else content
  joinedLines [] .plain (physicalLines text)

end Locator.EnvironmentFile
