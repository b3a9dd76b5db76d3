import Locator.Pattern.Opening

namespace Locator.Pattern

structure Row where
  count : Nat := 0
  highest : Nat := 0
deriving DecidableEq, Repr

namespace Row

def push (row : Row) (height : Nat) : Row := ⟨row.count + 1, max row.highest height⟩

def height (row : Row) : Nat := if row.count ≤ 1 then row.highest else row.highest + 1

end Row

def joined (left : Option Nat) (right : Nat) : Nat :=
  match left with
  | none => right
  | some l => max l right + 1

/-- The place in an open set. A caret, hyphens and a bracket mean something else at its start. -/
inductive SetPlace where
  | start
  | afterCaret
  | afterHyphen
  | inside
deriving DecidableEq, Repr

structure OpenSet where
  place : SetPlace := .start
  members : Row := {}
  left : Option Nat := none
deriving DecidableEq, Repr

namespace OpenSet

def push (o : OpenSet) (place : SetPlace) (height : Nat) : OpenSet :=
  { o with place := place, members := o.members.push height }

def operate (o : OpenSet) : OpenSet :=
  ⟨.inside, {}, some (joined o.left o.members.height)⟩

def height (o : OpenSet) : Nat := joined o.left o.members.height + 1

end OpenSet

/-- The alternative that is being read: the alternatives before it, its parts, and the height of the
last part if that can be repeated. -/
structure Branch where
  earlier : Option Nat := none
  parts : Row := {}
  last : Option Nat := none
deriving DecidableEq, Repr

namespace Branch

def push (b : Branch) (height : Nat) : Branch :=
  { b with parts := b.parts.push height, last := some height }

def pushSwitches (b : Branch) : Branch := { b with parts := b.parts.push 0, last := none }

def repeat? (b : Branch) : Option Branch :=
  b.last.map fun height =>
    { b with
      parts := { b.parts with highest := max b.parts.highest (height + 1) }
      last := some (height + 1) }

def alternate (b : Branch) : Branch :=
  { earlier := some (max (b.earlier.getD 0) b.parts.height) }

def height (b : Branch) : Nat := joined b.earlier b.parts.height

end Branch

end Locator.Pattern
