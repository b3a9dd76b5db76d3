import Locator.Json.StringLiteral
import Locator.Json.Number

/-! The open brackets are kept in a list, so values may be nested to any depth. -/

namespace Locator.Json

inductive Bracket where
  | list
  | object
deriving DecidableEq, Repr

namespace Bracket

def closing : Bracket → Char
  | .list => ']'
  | .object => '}'

def unclosed : Bracket → Reason
  | .list => .endInList
  | .object => .endInObject

def unseparated : Bracket → Reason
  | .list => .expectedListSeparator
  | .object => .expectedObjectSeparator

end Bracket

def readColon (s : List Char) : Except Fault (List Char) :=
  match skipBlank s with
  | [] => .error (.past [] .endInObject)
  | c :: r => if c = ':' then .ok r else .error (.past (c :: r) .expectedColon)

def skipKey (s : List Char) : Except Fault (List Char) :=
  match skipBlank s with
  | [] => .error (.past [] .endInObject)
  | c :: r =>
    if c = '"' then (skipString r).bind readColon else .error (.past (c :: r) .keyNotString)

def skipToValue : Bracket → List Char → Except Fault (List Char)
  | .list, s => .ok s
  | .object, s => skipKey s

def skipScalar (c : Char) (r : List Char) : Except Fault (List Char) :=
  if c = 'n' then readLetters ['u', 'l', 'l'] r
  else if c = 't' then readLetters ['r', 'u', 'e'] r
  else if c = 'f' then readLetters ['a', 'l', 's', 'e'] r
  else if c = '-' then skipNumber r
  else if c.isDigit then skipNumber (c :: r)
  else if c = '"' then skipString r
  else .error (.past (c :: r) .expectedValue)

theorem length_readColon {s r : List Char} (h : readColon s = .ok r) : r.length < s.length := by
  unfold readColon at h
  split at h
  · simp at h
  · next c t hs =>
    split at h
    · cases h
      exact length_of_skipBlank hs
    · simp at h

theorem length_skipKey {s r : List Char} (h : skipKey s = .ok r) : r.length < s.length := by
  unfold skipKey at h
  split at h
  · simp at h
  · next c t hs =>
    split at h
    · cases ht : skipString t with
      | error e => simp [ht, Except.bind] at h
      | ok u =>
        simp only [ht, Except.bind] at h
        exact Nat.lt_trans (length_readColon h)
          (Nat.lt_trans (length_skipString ht) (length_of_skipBlank hs))
    · simp at h

theorem length_skipToValue_le {b : Bracket} {s r : List Char} (h : skipToValue b s = .ok r) :
    r.length ≤ s.length := by
  cases b with
  | list =>
    cases h
    exact Nat.le_refl _
  | object => exact Nat.le_of_lt (length_skipKey h)

theorem length_skipScalar_le {c : Char} {r t : List Char} (h : skipScalar c r = .ok t) :
    t.length ≤ r.length := by
  unfold skipScalar at h
  split at h
  · have := length_readLetters h
    omega
  split at h
  · have := length_readLetters h
    omega
  split at h
  · have := length_readLetters h
    omega
  split at h
  · exact Nat.le_of_lt (length_skipNumber h)
  split at h
  · exact Nat.le_of_lt_succ (length_skipNumber h)
  split at h
  · exact Nat.le_of_lt (length_skipString h)
  · simp at h

/-- What the text may go on with: a value, the first item of the innermost brackets or their end,
or whatever follows a value in them. -/
inductive Expected where
  | value
  | first
  | next
deriving DecidableEq, Repr

def skipOpen (brackets : List Bracket) (expected : Expected) (s : List Char) :
    Except Fault (List Char) :=
  match expected, brackets with
  | .value, brackets =>
    match _h : skipBlank s with
    | [] => .error (.past [] .endInValue)
    | c :: r =>
      if c = '[' then skipOpen (.list :: brackets) .first r
      else if c = '{' then skipOpen (.object :: brackets) .first r
      else match _ht : skipScalar c r with
        | .error e => .error e
        | .ok t => skipOpen brackets .next t
  | _, [] => .ok s
  | .first, b :: outer =>
    match _h : skipBlank s with
    | [] => .error (.past [] b.unclosed)
    | c :: r =>
      if c = b.closing then skipOpen outer .next r
      else match _ht : skipToValue b (c :: r) with
        | .error e => .error e
        | .ok t => skipOpen (b :: outer) .value t
  | .next, b :: outer =>
    match _h : skipBlank s with
    | [] => .error (.past [] b.unclosed)
    | c :: r =>
      if c = b.closing then skipOpen outer .next r
      else if c = ',' then
        match _ht : skipToValue b r with
        | .error e => .error e
        | .ok t => skipOpen (b :: outer) .value t
      else .error (.past (c :: r) b.unseparated)
termination_by 2 * s.length + if expected = .first then 1 else 0
decreasing_by
  all_goals
    have hb := length_of_skipBlank _h
    try have ht := length_skipScalar_le _ht
    try have ht := length_skipToValue_le _ht
    try simp only [List.length_cons] at ht
    simp
    omega

theorem length_skipOpen_le {brackets : List Bracket} {expected : Expected} {s r : List Char}
    (h : skipOpen brackets expected s = .ok r) : r.length ≤ s.length := by
  fun_induction skipOpen brackets expected s with
  | case1 => simp at h
  | case2 s _ t hs ih => exact Nat.le_trans (ih h) (Nat.le_of_lt (length_of_skipBlank hs))
  | case3 s _ t hs _ ih => exact Nat.le_trans (ih h) (Nat.le_of_lt (length_of_skipBlank hs))
  | case4 => simp at h
  | case5 s _ c t hs _ _ u hu ih =>
    exact Nat.le_trans (ih h)
      (Nat.le_trans (length_skipScalar_le hu) (Nat.le_of_lt (length_of_skipBlank hs)))
  | case6 => simp_all
  | case7 => simp at h
  | case8 s b _ t hs ih => exact Nat.le_trans (ih h) (Nat.le_of_lt (length_of_skipBlank hs))
  | case9 => simp at h
  | case10 s b _ c t hs _ u hu ih =>
    exact Nat.le_trans (ih h) (Nat.le_trans (length_skipToValue_le hu) (length_of_skipBlank hs))
  | case11 => simp at h
  | case12 s b _ t hs ih => exact Nat.le_trans (ih h) (Nat.le_of_lt (length_of_skipBlank hs))
  | case13 => simp at h
  | case14 s b _ t u hu hs _ ih =>
    exact Nat.le_trans (ih h)
      (Nat.le_trans (length_skipToValue_le hu) (Nat.le_of_lt (length_of_skipBlank hs)))
  | case15 => simp at h

def skipValue (s : List Char) : Except Fault (List Char) := skipOpen [] .value s

end Locator.Json
