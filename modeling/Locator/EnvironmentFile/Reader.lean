import Locator.EnvironmentFile.Lines
import Locator.EnvironmentFile.Value

/-! What follows a malformed line of an environment file is not read. -/

namespace Locator.EnvironmentFile

structure Assignment where
  name : String
  value : Value
deriving DecidableEq, Repr

def Assignment.names (a : Assignment) : List String :=
  a.name :: a.value.filterMap Piece.name?

inductive Line where
  | blank
  | assignment (a : Assignment)
  | malformed
deriving DecidableEq, Repr

def trimStart (s : List Char) : List Char := s.dropWhile CharClass.blank.contains

def trimEnd (s : List Char) : List Char := (trimStart s.reverse).reverse

def isNameStart (c : Char) : Bool := c.isAlpha || c = '_'

def isNameChar (c : Char) : Bool := c.isAlphanum || c = '_' || c = '.'

def readName? (s : List Char) : Option (String × List Char) :=
  match s with
  | [] => none
  | c :: _ =>
    if isNameStart c then
      some (String.ofList (s.takeWhile isNameChar), trimStart (s.dropWhile isNameChar))
    else none

def readEquals? : List Char → Option (List Char)
  | '=' :: rest => some rest
  | _ => none

def exportName : String := "export"

/-- The name that is assigned to, and what follows the equals sign. The word `export` may stand in
front of the name, and may be one. -/
def readTarget? (s : List Char) : Option (String × List Char) := do
  let (name, rest) ← readName? s
  match readEquals? rest with
  | some rest => return (name, rest)
  | none =>
    if name = exportName then
      let (name, rest) ← readName? rest
      return (name, ← readEquals? rest)
    else none

def endsLine (s : List Char) : Bool := s = [] || s.head? = some '#'

def Line.ofText (text : List Char) : Line :=
  let s := trimStart (trimEnd text)
  if endsLine s then .blank
  else match readTarget? s with
    | none => .malformed
    | some (name, rest) =>
      let rest := trimStart rest
      if endsLine rest then .assignment ⟨name, []⟩
      else match Value.read? rest with
        | some value => .assignment ⟨name, value⟩
        | none => .malformed

def assignmentsOf : List (Option (List Char)) → List Assignment
  | [] => []
  | none :: _ => []
  | some text :: rest =>
    match Line.ofText text with
    | .blank => assignmentsOf rest
    | .assignment a => a :: assignmentsOf rest
    | .malformed => []

def assignments (content : Bytes) : List Assignment := assignmentsOf (lines content)

end Locator.EnvironmentFile
