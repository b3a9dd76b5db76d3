import Locator.Pattern.Member
import Locator.Pattern.Nesting

/-! Which texts are patterns. What a pattern matches is not asked here. -/

namespace Locator.Pattern

structure OpenGroup where
  switches : Switches
  branch : Branch
deriving DecidableEq, Repr

structure Reading where
  switches : Switches := {}
  branch : Branch := {}
  groups : List OpenGroup := []
  names : List (List Char) := []
  sets : List OpenSet := []
deriving DecidableEq, Repr

namespace Reading

def push (r : Reading) (height : Nat) : Reading := { r with branch := r.branch.push height }

def openGroup? (r : Reading) (rest : List Char) : Option (Reading × List Char) :=
  (Opening.read? r.switches rest).bind fun
    | (.switches after, rest) =>
      some ({ r with switches := after, branch := r.branch.pushSwitches }, rest)
    | (.group name inside, rest) =>
      if name.any r.names.contains then none
      else some ({ r with
        switches := inside
        branch := {}
        groups := ⟨r.switches, r.branch⟩ :: r.groups
        names := name.toList ++ r.names }, rest)

def closeGroup? (r : Reading) : Option Reading :=
  match r.groups with
  | [] => none
  | group :: groups =>
    some { r with
      switches := group.switches
      branch := group.branch.push (r.branch.height + 1)
      groups := groups }

/-- A question mark right after a repetition belongs to it. -/
def repeat? (r : Reading) (rest : List Char) : Option (Reading × List Char) :=
  r.branch.repeat?.map fun branch =>
    ({ r with branch := branch }, if rest.head? = some '?' then rest.tail else rest)

def atom? (r : Reading) (c : Char) (rest : List Char) : Option (Reading × List Char) :=
  (Atom.read? r.switches c rest).bind fun (atom, rest) =>
    if atom.allowed r.switches then some (r.push 0, rest) else none

/-- Takes in a character of the text, with as much of the rest as belongs to it. A counted
repetition is always malformed, for want of the closing brace. -/
def text? (r : Reading) (c : Char) (rest : List Char) : Option (Reading × List Char) :=
  if c = '(' then r.openGroup? rest
  else if c = ')' then r.closeGroup?.map (·, rest)
  else if c = '|' then some ({ r with branch := r.branch.alternate }, rest)
  else if c = '[' then some ({ r with sets := [{}] }, rest)
  else if c = '?' || c = '*' || c = '+' then r.repeat? rest
  else if c = '{' then none
  else if c = '.' then if r.switches.unicode then some (r.push 0, rest) else none
  else if c = '^' || c = '$' then some (r.push 0, rest)
  else r.atom? c rest

def closeSet (r : Reading) (o : OpenSet) (outer : List OpenSet) : Reading :=
  match outer with
  | [] => { r with sets := [] }.push o.height
  | around :: outer => { r with sets := around.push .inside o.height :: outer }

def member? (r : Reading) (o : OpenSet) (outer : List OpenSet) (c : Char) (rest : List Char) :
    Option (Reading × List Char) :=
  (Member.read? r.switches c rest).map fun rest =>
    ({ r with sets := o.push .inside 0 :: outer }, rest)

def openInner? (r : Reading) (o : OpenSet) (outer : List OpenSet) (rest : List Char) :
    Option (Reading × List Char) :=
  match Member.name? rest with
  | none => some ({ r with sets := {} :: { o with place := .inside } :: outer }, rest)
  | some (negated, rest) =>
    let allowed := if r.switches.unicode then !r.switches.caseless else !negated
    if allowed then some ({ r with sets := o.push .inside 0 :: outer }, rest) else none

def inside? (r : Reading) (o : OpenSet) (outer : List OpenSet) (c : Char) (rest : List Char) :
    Option (Reading × List Char) :=
  if c = '[' then r.openInner? o outer rest
  else if c = ']' then some (r.closeSet o outer, rest)
  else if (c = '&' || c = '-' || c = '~') && rest.head? = some c then
    some ({ r with sets := o.operate :: outer }, rest.tail)
  else r.member? o outer c rest

def plain? (r : Reading) (o : OpenSet) (outer : List OpenSet) (place : SetPlace) (c : Char)
    (rest : List Char) : Option (Reading × List Char) :=
  if (Atom.literal c).allowedInSet r.switches then
    some ({ r with sets := o.push place 0 :: outer }, rest)
  else none

/-- Takes in a character of a set. Without the Unicode switch no set is meant the other way round,
since that would hold bytes that are no characters. -/
def set? (r : Reading) (o : OpenSet) (outer : List OpenSet) (c : Char) (rest : List Char) :
    Option (Reading × List Char) :=
  match o.place, c with
  | .start, '^' =>
    if r.switches.unicode then
      some ({ r with sets := { o with place := .afterCaret } :: outer }, rest)
    else none
  | .inside, _ => r.inside? o outer c rest
  | _, '-' => r.plain? o outer .afterHyphen c rest
  | .afterHyphen, _ => r.inside? o outer c rest
  | _, ']' => r.plain? o outer .inside c rest
  | _, _ => r.inside? o outer c rest

def step? (r : Reading) (c : Char) (rest : List Char) : Option (Reading × List Char) :=
  if r.switches.spaced && (c = '#' || CharClass.blank.contains c) then
    some (r, skipSpace (c = '#') rest)
  else match r.sets with
    | [] => r.text? c rest
    | o :: outer => r.set? o outer c rest

def run? : Reading → (taken : Nat) → List Char → Option Reading
  | r, _, [] => some r
  | r, taken + 1, _ :: rest => r.run? taken rest
  | r, 0, c :: rest =>
    (r.step? c rest).bind fun (next, left) => next.run? (rest.length - left.length) rest

end Reading

def depthLimit : Nat := 250

def isPattern (text : List Char) : Bool :=
  match Reading.run? {} 0 text with
  | some r => r.groups = [] && r.sets = [] && r.branch.height ≤ depthLimit
  | none => false

end Locator.Pattern
