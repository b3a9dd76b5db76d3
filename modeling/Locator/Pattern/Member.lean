import Locator.Pattern.Atom

namespace Locator.Pattern

namespace Member

/-- Reads a member that begins with `c`, whose end is a range's if a hyphen follows. A hyphen before
a bracket or another hyphen stands for itself. -/
def read? (s : Switches) (c : Char) (rest : List Char) : Option (List Char) := do
  let (first, rest) ← Atom.read? s c rest
  let single := if first.allowedInSet s then some rest else none
  match s.skip rest with
  | '-' :: more =>
    if s.peek? more = some ']' ∨ s.peek? more = some '-' then single
    else match s.skip more with
      | [] => none
      | d :: more =>
        let (last, rest) ← Atom.read? s d more
        if (← first.char?) ≤ (← last.char?) ∧ first.allowedInSet s ∧ last.allowedInSet s then
          some rest
        else none
  | _ => single

def names : List String :=
  ["alnum", "alpha", "ascii", "blank", "cntrl", "digit", "graph", "lower", "print", "punct",
   "space", "upper", "word", "xdigit"]

/-- Reads the name of a set between colons, and the bracket after it: whether all but that set is
meant, and what follows. -/
def name? : List Char → Option (Bool × List Char)
  | ':' :: text =>
    let negated := text.head? = some '^'
    let text := if negated then text.tail else text
    let name := text.takeWhile (· ≠ ':')
    match text.drop name.length with
    | ':' :: ']' :: rest =>
      if names.contains (String.ofList name) then some (negated, rest) else none
    | _ => none
  | _ => none

end Member

end Locator.Pattern
