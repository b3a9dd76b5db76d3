import Locator.Text.Quoted

/-! A fault keeps how many bytes lie beyond the place it points to, which a reader has at hand. -/

namespace Locator.Json

inductive Found where
  | null
  | boolean (value : Bool)
  | integer (value : Int)
  | float (text : String)
  | string (value : String)
  | sequence
  | map
deriving DecidableEq, Repr

def Found.text : Found → String
  | .null => "null"
  | .boolean value => "boolean `" ++ (if value then "true" else "false") ++ "`"
  | .integer value => "integer `" ++ toString value ++ "`"
  | .float text => "floating point `" ++ text ++ "`"
  | .string value => "string " ++ Quoted.ofString value
  | .sequence => "sequence"
  | .map => "map"

inductive Reason where
  | endInValue
  | endInString
  | endInList
  | endInObject
  | expectedValue
  | expectedLiteral
  | expectedColon
  | expectedListSeparator
  | expectedObjectSeparator
  | keyNotString
  | trailingComma
  | trailingCharacters
  | controlCharacter
  | invalidEscape
  | unpairedSurrogate
  | brokenSurrogatePair
  | invalidNumber
  | numberOutOfRange
  | wrongKind (found : Found) (expected : String)
  | duplicateField (key : String)
  | unknownVariant (name : String) (expected : List String)
deriving DecidableEq, Repr

def Reason.text : Reason → String
  | .endInValue => "EOF while parsing a value"
  | .endInString => "EOF while parsing a string"
  | .endInList => "EOF while parsing a list"
  | .endInObject => "EOF while parsing an object"
  | .expectedValue => "expected value"
  | .expectedLiteral => "expected ident"
  | .expectedColon => "expected `:`"
  | .expectedListSeparator => "expected `,` or `]`"
  | .expectedObjectSeparator => "expected `,` or `\x7d`"
  | .keyNotString => "key must be a string"
  | .trailingComma => "trailing comma"
  | .trailingCharacters => "trailing characters"
  | .controlCharacter => "control character (\\u0000-\\u001F) found while parsing a string"
  | .invalidEscape => "invalid escape"
  | .unpairedSurrogate => "lone leading surrogate in hex escape"
  | .brokenSurrogatePair => "unexpected end of hex escape"
  | .invalidNumber => "invalid number"
  | .numberOutOfRange => "number out of range"
  | .wrongKind found expected => "invalid type: " ++ found.text ++ ", expected " ++ expected
  | .duplicateField key => "duplicate field `" ++ key ++ "`"
  | .unknownVariant name expected =>
    "unknown variant `" ++ name ++ "`, expected one of " ++
      ", ".intercalate (expected.map fun v => "`" ++ v ++ "`")

structure Place where
  line : Nat
  column : Nat
deriving DecidableEq, Repr

def newline : UInt8 := 0x0a

def Place.after (bs : Bytes) (i : Nat) : Place :=
  let read := bs.take i
  ⟨read.count newline + 1, (read.reverse.takeWhile (· != newline)).length⟩

def byteSize (s : List Char) : Nat := s.foldr (fun c n => c.utf8Size + n) 0

structure Fault where
  reason : Reason
  left : Nat
deriving DecidableEq, Repr

namespace Fault

def before (left : List Char) (reason : Reason) : Fault := ⟨reason, byteSize left⟩

def past (left : List Char) (reason : Reason) : Fault := ⟨reason, byteSize left - 1⟩

def place (f : Fault) (text : String) : Place :=
  let bs := Utf8.encode text
  .after bs (bs.length - f.left)

def message (f : Fault) (text : String) : String :=
  let p := f.place text
  f.reason.text ++ " at line " ++ toString p.line ++ " column " ++ toString p.column

end Fault

def isBlank (c : Char) : Bool := c = ' ' || c = '\t' || c = '\n' || c = '\r'

def skipBlank (s : List Char) : List Char := s.dropWhile isBlank

theorem length_skipBlank_le (s : List Char) : (skipBlank s).length ≤ s.length :=
  (List.dropWhile_suffix isBlank).length_le

theorem length_of_skipBlank {s r : List Char} {c : Char} (h : skipBlank s = c :: r) :
    r.length < s.length := by
  have := length_skipBlank_le s
  rw [h] at this
  exact this

def readLetters : List Char → List Char → Except Fault (List Char)
  | [], s => .ok s
  | _ :: _, [] => .error (.before [] .endInValue)
  | c :: word, d :: s =>
    if c = d then readLetters word s else .error (.past (d :: s) .expectedLiteral)

theorem length_readLetters {word s r : List Char} (h : readLetters word s = .ok r) :
    r.length + word.length = s.length := by
  induction word generalizing s with
  | nil => simp_all [readLetters]
  | cons c word ih =>
    cases s with
    | nil => simp [readLetters] at h
    | cons d s =>
      rw [readLetters] at h
      split at h
      · simp [← ih h, Nat.add_assoc]
      · simp at h

end Locator.Json
