import Locator.Json.Skip

namespace Locator.Json

/-- The fault of a value once it is read as far as its kind has to be named. -/
def unexpectedKind (expected : String) : Except Fault (Found × List Char) → Fault
  | .ok (found, r) => .before r (.wrongKind found expected)
  | .error e => e

def unexpected (expected : String) : List Char → Fault
  | [] => .past [] .endInValue
  | c :: r =>
    let named := unexpectedKind expected
    if c = 'n' then named ((readLetters ['u', 'l', 'l'] r).map (.null, ·))
    else if c = 't' then named ((readLetters ['r', 'u', 'e'] r).map (.boolean true, ·))
    else if c = 'f' then named ((readLetters ['a', 'l', 's', 'e'] r).map (.boolean false, ·))
    else if c = '-' then named (readNumber true r)
    else if c.isDigit then named (readNumber false (c :: r))
    else if c = '"' then
      named ((readString r).map fun (cs, t) => (.string (String.ofList cs), t))
    else if c = '[' then named (.ok (.sequence, c :: r))
    else if c = '{' then named (.ok (.map, c :: r))
    else .past (c :: r) .expectedValue

def readText (s : List Char) : Except Fault (String × List Char) :=
  match skipBlank s with
  | [] => .error (.past [] .endInValue)
  | c :: r =>
    if c = '"' then (readString r).map fun (cs, t) => (String.ofList cs, t)
    else .error (unexpected "a string" (c :: r))

def readText? (s : List Char) : Except Fault (Option String × List Char) :=
  match skipBlank s with
  | 'n' :: r => (readLetters ['u', 'l', 'l'] r).map (none, ·)
  | _ => (readText s).map fun (text, r) => (some text, r)

def readKey (s : List Char) : Except Fault (Option String × List Char) :=
  match s with
  | [] => .error (.past [] .endInValue)
  | c :: r =>
    if c = '"' then (readString r).map fun (cs, t) => (some (String.ofList cs), t)
    else if c = '}' then .error (.past (c :: r) .trailingComma)
    else .error (.past (c :: r) .keyNotString)

/-- Reads up to the colon of the next member. None when the object closes here; the bracket is left
to be read. -/
def nextKey (first : Bool) (s : List Char) : Except Fault (Option String × List Char) :=
  match skipBlank s with
  | [] => .error (.past [] .endInObject)
  | c :: r =>
    if c = '}' then .ok (none, c :: r)
    else if first then readKey (c :: r)
    else if c = ',' then readKey (skipBlank r)
    else .error (.past (c :: r) .expectedObjectSeparator)

def nextElement (first : Bool) (s : List Char) : Except Fault (Bool × List Char) :=
  match skipBlank s with
  | [] => .error (.past [] .endInList)
  | c :: r =>
    if c = ']' then .ok (false, c :: r)
    else if first then .ok (true, c :: r)
    else if c = ',' then
      match skipBlank r with
      | [] => .error (.past [] .endInValue)
      | d :: t => if d = ']' then .error (.past (d :: t) .trailingComma) else .ok (true, d :: t)
    else .error (.past (c :: r) .expectedListSeparator)

def endObject (s : List Char) : Except Fault (List Char) :=
  match skipBlank s with
  | [] => .error (.past [] .endInObject)
  | c :: r =>
    if c = '}' then .ok r
    else if c = ',' then .error (.past (c :: r) .trailingComma)
    else .error (.past (c :: r) .trailingCharacters)

def endList (s : List Char) : Except Fault (List Char) :=
  match skipBlank s with
  | [] => .error (.past [] .endInList)
  | c :: r =>
    if c = ']' then .ok r
    else if c = ',' then
      match skipBlank r with
      | ']' :: t => .error (.past (']' :: t) .trailingComma)
      | t => .error (.past t .trailingCharacters)
    else .error (.past (c :: r) .trailingCharacters)

/-- What is left once an object that should close here has closed, or could not. -/
def leaveObject (s : List Char) : List Char :=
  match skipBlank s with
  | '}' :: r => r
  | r => r

def readDocument {α : Type} (read : List Char → Except Fault (α × List Char)) (text : String) :
    Except Fault α := do
  let (value, r) ← read text.toList
  match skipBlank r with
  | [] => return value
  | t => .error (.past t .trailingCharacters)

theorem length_readText {s r : List Char} {text : String} (h : readText s = .ok (text, r)) :
    r.length < s.length := by
  unfold readText at h
  split at h
  · simp at h
  · next c t hs =>
    split at h
    · cases ht : readString t with
      | error e => simp [ht, Except.map] at h
      | ok p =>
        obtain ⟨cs, u⟩ := p
        simp only [ht, Except.map, Except.ok.injEq, Prod.mk.injEq] at h
        obtain ⟨-, rfl⟩ := h
        exact Nat.lt_trans (length_readString ht) (length_of_skipBlank hs)
    · simp at h

theorem length_readText? {s r : List Char} {text? : Option String}
    (h : readText? s = .ok (text?, r)) : r.length < s.length := by
  unfold readText? at h
  split at h
  · next t hs =>
    cases ht : readLetters ['u', 'l', 'l'] t with
    | error e => simp [ht, Except.map] at h
    | ok u =>
      simp only [ht, Except.map, Except.ok.injEq, Prod.mk.injEq] at h
      obtain ⟨-, rfl⟩ := h
      have := length_readLetters ht
      have := length_of_skipBlank hs
      omega
  · cases ht : readText s with
    | error e => simp [ht, Except.map] at h
    | ok p =>
      obtain ⟨text, u⟩ := p
      simp only [ht, Except.map, Except.ok.injEq, Prod.mk.injEq] at h
      obtain ⟨-, rfl⟩ := h
      exact length_readText ht

theorem length_readKey {s r : List Char} {key? : Option String} (h : readKey s = .ok (key?, r)) :
    r.length < s.length := by
  unfold readKey at h
  split at h
  · simp at h
  · next c t =>
    split at h
    · cases ht : readString t with
      | error e => simp [ht, Except.map] at h
      | ok p =>
        obtain ⟨cs, u⟩ := p
        simp only [ht, Except.map, Except.ok.injEq, Prod.mk.injEq] at h
        obtain ⟨-, rfl⟩ := h
        exact Nat.lt_succ_of_lt (length_readString ht)
    · split at h <;> simp at h

theorem length_nextKey {first : Bool} {s r : List Char} {key : String}
    (h : nextKey first s = .ok (some key, r)) : r.length < s.length := by
  unfold nextKey at h
  split at h
  · simp at h
  · next c t hs =>
    split at h
    · simp at h
    split at h
    · exact Nat.lt_of_lt_of_le (length_readKey h) (length_of_skipBlank hs)
    split at h
    · exact Nat.lt_trans (Nat.lt_of_lt_of_le (length_readKey h) (length_skipBlank_le t))
        (length_of_skipBlank hs)
    · simp at h

end Locator.Json
