/-! `chunks` cuts bytes into characters and runs of bytes that spell none. -/

namespace Locator

abbrev Bytes := List UInt8

namespace Utf8

def encode (s : String) : Bytes :=
  s.toList.flatMap String.utf8EncodeChar

inductive Chunk where
  | char (c : Char)
  | stray (bytes : Bytes)

/-- What a first byte promises: the high bits of the code point, how many bytes follow, and the
least and the greatest that the next one may be. -/
structure Lead where
  bits : Nat
  following : Nat
  least : UInt8
  greatest : UInt8

def lead? (b : UInt8) : Option Lead :=
  if b < 0x80 then some ⟨b.toNat, 0, 0x80, 0xbf⟩
  else if b < 0xc2 then none
  else if b < 0xe0 then some ⟨b.toNat - 0xc0, 1, 0x80, 0xbf⟩
  else if b < 0xf0 then
    some ⟨b.toNat - 0xe0, 2, if b = 0xe0 then 0xa0 else 0x80, if b = 0xed then 0x9f else 0xbf⟩
  else if b < 0xf5 then
    some ⟨b.toNat - 0xf0, 3, if b = 0xf0 then 0x90 else 0x80, if b = 0xf4 then 0x8f else 0xbf⟩
  else none

def follow (code : Nat) (seen : Bytes) : Nat → UInt8 → UInt8 → Bytes → Chunk × Bytes
  | 0, _, _, rest => (.char (Char.ofNat code), rest)
  | _ + 1, _, _, [] => (.stray seen, [])
  | n + 1, least, greatest, b :: rest =>
    if least ≤ b ∧ b ≤ greatest then
      follow (code * 64 + b.toNat % 64) (seen ++ [b]) n 0x80 0xbf rest
    else (.stray seen, b :: rest)

def chunk (b : UInt8) (rest : Bytes) : Chunk × Bytes :=
  match lead? b with
  | none => (.stray [b], rest)
  | some l => follow l.bits [b] l.following l.least l.greatest rest

theorem length_follow_le (code : Nat) (seen : Bytes) (n : Nat) (least greatest : UInt8)
    (rest : Bytes) : (follow code seen n least greatest rest).2.length ≤ rest.length := by
  induction n generalizing code seen least greatest rest with
  | zero => simp [follow]
  | succ n ih =>
    cases rest with
    | nil => simp [follow]
    | cons b rest =>
      rw [follow]
      split
      · exact Nat.le_succ_of_le (ih _ _ _ _ rest)
      · simp

theorem length_chunk_le (b : UInt8) (rest : Bytes) : (chunk b rest).2.length ≤ rest.length := by
  rw [chunk]
  split
  · simp
  · exact length_follow_le _ _ _ _ _ rest

def chunks : Bytes → List Chunk
  | [] => []
  | b :: rest => (chunk b rest).1 :: chunks (chunk b rest).2
termination_by bs => bs.length
decreasing_by exact Nat.lt_succ_of_le (length_chunk_le b rest)

def Chunk.char? : Chunk → Option Char
  | .char c => some c
  | .stray _ => none

def Chunk.shown : Chunk → Char
  | .char c => c
  | .stray _ => Char.ofNat 0xfffd

def decode? (bs : Bytes) : Option String :=
  ((chunks bs).mapM Chunk.char?).map String.ofList

def display (bs : Bytes) : String :=
  String.ofList ((chunks bs).map Chunk.shown)

end Utf8

end Locator
