import Locator.Event

namespace Locator

inductive Threshold where
  | off
  | upTo (level : Level)
deriving DecidableEq, Repr

namespace Threshold

def allows : Threshold → Level → Bool
  | .off, _ => false
  | .upTo most, level => level.detail ≤ most.detail

def everything : Threshold := .upTo .trace

def all : List Threshold :=
  [.off, .upTo .error, .upTo .warn, .upTo .info, .upTo .debug, .upTo .trace]

def name : Threshold → String
  | .off => "off"
  | .upTo level => level.name

def number? (s : List Char) : Option Nat :=
  let digits := if s.head? = some '+' then s.tail else s
  if digits ≠ [] ∧ digits.all Char.isDigit then
    some (digits.foldl (fun n c => n * 10 + (c.toNat - '0'.toNat)) 0)
  else none

def ofText? (s : List Char) : Option Threshold :=
  match (number? s).bind fun n => all[n]? with
  | some t => some t
  | none => all.find? fun t => t.name.toList.map Char.toLower = s.map Char.toLower

end Threshold

structure LogRule where
  target : Option String
  field : Option String
  threshold : Threshold
deriving DecidableEq, Repr

namespace LogRule

def coversTarget (rule : LogRule) (target : String) : Bool :=
  match rule.target with
  | none => true
  | some t => t.toList.isPrefixOf target.toList

def coversFields (rule : LogRule) (names : List String) : Bool :=
  match rule.field with
  | none => true
  | some name => names.contains name

def applies (rule : LogRule) (event : Event) : Bool :=
  rule.coversTarget event.target && rule.coversFields event.fieldNames

def weight (rule : LogRule) : Nat :=
  match rule.target with
  | none => 0
  | some t => t.length + 1

def asksNoMore : Option String → Option String → Bool
  | none, _ => true
  | some _, none => false
  | some a, some b => !decide (b < a)

def yields (first second : LogRule) : Bool :=
  first.weight < second.weight ||
    (first.weight = second.weight && asksNoMore first.field second.field)

end LogRule

end Locator
