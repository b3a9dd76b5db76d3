import Locator.LogRule
import Locator.Pattern

/-! A directive is a level, a target or `target[span{field}]=level`, where parts may be left out. -/

namespace Locator

inductive Directive where
  | rule (r : LogRule)
  | onSpans
deriving DecidableEq, Repr

namespace Directive

def rule? : Directive → Option LogRule
  | .rule r => some r
  | .onSpans => none

inductive Fault where
  | malformed
  /-- A part of the text would begin or end inside a character. -/
  | cut
deriving DecidableEq, Repr

def orMalformed {α : Type} : Option α → Except Fault α
  | some a => .ok a
  | none => .error .malformed

/-- The text of a directive, as it is written and without the blanks around it. Marks are looked
for in the latter, and what they bound is cut out of the former at the same places. -/
structure Draft where
  written : Bytes
  trimmed : Bytes
deriving DecidableEq, Repr

namespace Draft

def trim (text : List Char) : List Char :=
  ((text.dropWhile CharClass.blank.contains).reverse.dropWhile CharClass.blank.contains).reverse

def ofText (text : List Char) : Draft :=
  ⟨Utf8.encode (String.ofList text), Utf8.encode (String.ofList (trim text))⟩

def equals : UInt8 := 0x3d
def opening : UInt8 := 0x5b
def closing : UInt8 := 0x5d
def fieldOpening : UInt8 := 0x7b
def fieldClosing : UInt8 := 0x7d

def next? (d : Draft) (start : Nat) (a b : UInt8) : Option (Nat × UInt8) :=
  let skipped := (d.trimmed.drop start).takeWhile fun c => c ≠ a && c ≠ b
  let place := start + skipped.length
  d.trimmed[place]?.map fun mark => (place, mark)

def between (d : Draft) (start stop : Nat) : Except Fault String :=
  match Utf8.decode? (d.written.take start), Utf8.decode? ((d.written.take stop).drop start) with
  | some _, some text => .ok text
  | _, _ => .error .cut

def after (d : Draft) (start : Nat) : Except Fault String := d.between start d.written.length

/-- Nothing at all stands for the most detailed level. -/
def level (d : Draft) (start : Nat) : Except Fault Threshold := do
  let text ← d.after start
  if text = "" then .ok .everything else orMalformed (Threshold.ofText? text.toList)

def afterBracket (d : Draft) (start : Nat) : Except Fault Threshold :=
  match d.trimmed[start]? with
  | none => .ok .everything
  | some mark => if mark = equals then d.level (start + 1) else .error .malformed

def isNumber (s : List Char) : Bool :=
  let fraction := s.dropWhile Char.isDigit
  let exponent :=
    if fraction.head? = some '.' then fraction.tail.dropWhile Char.isDigit else fraction
  let digits := (s.take (s.length - exponent.length)).filter Char.isDigit
  ["inf", "infinity", "nan"].contains (String.ofList (s.map Char.toLower)) ||
    (digits ≠ [] && match exponent with
      | [] => true
      | e :: power =>
        let power := if ['+', '-'].contains (power.headD 'e') then power.tail else power
        (e = 'e' || e = 'E') && power ≠ [] && power.all Char.isDigit)

/-- The value of a field is a pattern or a number. Only a plus sign keeps a number from being a
pattern as well. -/
def isValue : List Char → Bool
  | '+' :: s => isNumber s
  | s => Pattern.isPattern s

/-- The name of a field, and its value if one is asked for: what stands between the first equals
sign and the second, if there is one. -/
def named? (text : String) : Option (String × Option (List Char)) :=
  match text.toList.splitOn '=' with
  | [name] => if name = [] then none else some (String.ofList name, none)
  | name :: value :: _ =>
    if isValue value then some (String.ofList name, some value) else none
  | [] => none

def field (d : Draft) (target : Option String) (span : String) (start : Nat) :
    Except Fault Directive := do
  let (stop, _) ← orMalformed (d.next? start fieldClosing fieldClosing)
  let (name, value?) ← orMalformed (named? (← d.between start stop))
  if d.trimmed[stop + 1]? ≠ some closing then .error .malformed
  else
    let threshold ← d.afterBracket (stop + 2)
    if span = "" ∧ value? = none then .ok (.rule ⟨target, some name, threshold⟩)
    else .ok .onSpans

def bracketed (d : Draft) (target : Option String) (start : Nat) : Except Fault Directive := do
  let (stop, mark) ← orMalformed (d.next? start closing fieldOpening)
  let span ← d.between start stop
  if mark = fieldOpening then d.field target span (stop + 1)
  else
    let _ ← d.afterBracket (stop + 1)
    .ok .onSpans

def word (d : Draft) : Except Fault Directive := do
  let text ← d.after 0
  match Threshold.ofText? text.toList with
  | some threshold => .ok (.rule ⟨none, none, threshold⟩)
  | none => .ok (.rule ⟨some text, none, .everything⟩)

def targeted (d : Draft) : Except Fault Directive :=
  match d.next? 0 equals opening with
  | none => d.word
  | some (stop, mark) => do
    let target ← d.between 0 stop
    if mark = opening then d.bracketed (some target) (stop + 1)
    else
      let threshold ← d.level (stop + 1)
      .ok (.rule ⟨some target, none, threshold⟩)

end Draft

def mayStart (c : Char) : Bool :=
  ['-', ':', '_'].contains c || CharClass.alphanumeric.contains c

def ofText (text : List Char) : Except Fault Directive :=
  match Draft.trim text with
  | [] => .error .malformed
  | first :: _ =>
    if first = '[' then (Draft.ofText text).bracketed none 1
    else if mayStart first then (Draft.ofText text).targeted
    else .error .malformed

end Directive

end Locator
