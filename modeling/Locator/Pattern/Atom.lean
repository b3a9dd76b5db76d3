import Locator.Text.CharClass
import Locator.Text.Hexadecimal

/-! No tables of characters are at hand, so what needs them is not available in a pattern. -/

namespace Locator.Pattern

structure Switches where
  unicode : Bool := true
  caseless : Bool := false
  /-- Blanks are passed over, and so is what follows a `#` on its line. -/
  spaced : Bool := false
deriving DecidableEq, Repr

def skipSpace (comment : Bool) : List Char → List Char
  | [] => []
  | c :: rest =>
    if comment then skipSpace (c ≠ '\n') rest
    else if CharClass.blank.contains c then skipSpace false rest
    else if c = '#' then skipSpace true rest
    else c :: rest

def peekSpace (comment : Bool) : List Char → Option Char
  | [] => none
  | c :: rest =>
    if CharClass.blank.contains c then peekSpace comment rest
    else if !comment && c = '#' then peekSpace true rest
    else some c

namespace Switches

def skip (s : Switches) (text : List Char) : List Char :=
  if s.spaced then skipSpace false text else text

def peek? (s : Switches) (text : List Char) : Option Char :=
  if s.spaced then (peekSpace false text).or text.head? else text.head?

end Switches

inductive Atom where
  | literal (c : Char)
  | byte (c : Char)
  | kind (negated : Bool)
  | anchor
  | boundary
deriving DecidableEq, Repr

namespace Atom

def char? : Atom → Option Char
  | .literal c => some c
  | .byte c => some c
  | _ => none

def isByte (c : Char) : Bool := c.toNat < 0x80

def allowed (s : Switches) : Atom → Bool
  | .literal _ => !(s.unicode && s.caseless)
  | .byte c => if s.unicode then !s.caseless else isByte c
  | .kind negated => !s.unicode && !negated
  | .anchor => true
  | .boundary => !s.unicode

def allowedInSet (s : Switches) : Atom → Bool
  | .literal c => if s.unicode then !s.caseless else isByte c
  | .byte c => if s.unicode then !s.caseless else isByte c
  | .kind negated => !s.unicode && !negated
  | .anchor => false
  | .boundary => false

def hex? (s : Switches) (value : Nat) : (count : Nat) → List Char → Option (Nat × List Char)
  | 0, text => some (value, text)
  | _ + 1, [] => none
  | count + 1, c :: rest =>
    (hexValue? c).bind fun digit => hex? s (value * 16 + digit) count (s.skip rest)

def hexChar? (s : Switches) (count : Nat) (text : List Char) : Option (Char × List Char) :=
  (hex? s 0 count (s.skip text)).bind fun (n, rest) =>
    if n.isValidChar then some (Char.ofNat n, rest) else none

def control? : Char → Option Char
  | 'a' => some '\x07'
  | 'f' => some '\x0c'
  | 't' => some '\t'
  | 'n' => some '\n'
  | 'r' => some '\r'
  | 'v' => some '\x0b'
  | _ => none

/-- Every sign of ASCII stands for itself behind a backslash, but for the two that stand there for
the ends of a word. -/
def isSign (c : Char) : Bool := isByte c && !c.isAlphanum && c ≠ '<' && c ≠ '>'

/-- Reads what a backslash introduces. A brace after the end of a word can only be malformed, for
want of its partner. -/
def escaped? (s : Switches) : List Char → Option (Atom × List Char)
  | [] => none
  | c :: rest =>
    if c = 'x' then (hexChar? s 2 rest).map fun (d, r) => (.byte d, r)
    else if c = 'u' then (hexChar? s 4 rest).map fun (d, r) => (.literal d, r)
    else if c = 'U' then (hexChar? s 8 rest).map fun (d, r) => (.literal d, r)
    else if ['d', 's', 'w'].contains c then some (.kind false, rest)
    else if ['D', 'S', 'W'].contains c then some (.kind true, rest)
    else if ['A', 'z'].contains c then some (.anchor, rest)
    else if ['B', '<', '>'].contains c then some (.boundary, rest)
    else if c = 'b' then if rest.head? = some '{' then none else some (.boundary, rest)
    else if isSign c then some (.literal c, rest)
    else (control? c).map fun d => (.literal d, rest)

def read? (s : Switches) (c : Char) (rest : List Char) : Option (Atom × List Char) :=
  if c = '\\' then escaped? s rest else some (.literal c, rest)

end Atom

end Locator.Pattern
