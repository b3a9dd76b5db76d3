import Locator.Pattern.Atom
import Locator.Text.Alphanumeric
import Locator.Text.Numeral

namespace Locator.Pattern

inductive Opening where
  | group (name : Option (List Char)) (inside : Switches)
  | switches (after : Switches)
deriving DecidableEq, Repr

namespace Opening

def isName : List Char → Bool
  | [] => false
  | c :: rest =>
    (c = '_' || (CharClass.alphanumeric.contains c && !CharClass.numeral.contains c)) &&
      rest.all fun d => ['_', '.', '[', ']'].contains d || CharClass.alphanumeric.contains d

/-- Letters that switch on, a hyphen, letters that switch off, and none of them twice. -/
def areSwitches (cs : List Char) : Bool :=
  cs.all ['i', 'm', 's', 'U', 'u', 'R', 'x', '-'].contains && decide cs.Nodup &&
    cs.getLast? ≠ some '-'

def switched (cs : List Char) (letter : Char) (before : Bool) : Bool :=
  if cs.contains letter then (cs.takeWhile (· ≠ '-')).contains letter else before

def applySwitches (cs : List Char) (s : Switches) : Switches where
  unicode := switched cs 'u' s.unicode
  caseless := switched cs 'i' s.caseless
  spaced := switched cs 'x' s.spaced

def upTo? (p : Char → Bool) (text : List Char) : Option (List Char × Char × List Char) :=
  match text.dropWhile (!p ·) with
  | [] => none
  | c :: rest => some (text.takeWhile (!p ·), c, rest)

def named? (s : Switches) (text : List Char) : Option (Opening × List Char) :=
  (upTo? (· = '>') text).bind fun (name, _, rest) =>
    if isName name then some (.group (some name) s, rest) else none

def switching? (s : Switches) (text : List Char) : Option (Opening × List Char) :=
  (upTo? (fun c => c = ':' || c = ')') text).bind fun (cs, last, rest) =>
    if !areSwitches cs then none
    else if last = ':' then some (.group none (applySwitches cs s), rest)
    else if cs = [] then none
    else some (.switches (applySwitches cs s), rest)

def read? (s : Switches) (text : List Char) : Option (Opening × List Char) :=
  match s.skip text with
  | '?' :: 'P' :: '<' :: rest => named? s rest
  | '?' :: '<' :: rest => named? s rest
  | '?' :: rest => switching? s rest
  | rest => some (.group none s, rest)

end Opening

end Locator.Pattern
