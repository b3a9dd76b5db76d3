import Locator.Json.Fault
import Locator.Text.Hexadecimal

/-! `readString` wants surrogates in pairs; `skipString` lets any four hexadecimal digits stand. -/

namespace Locator.Json

def hexCode? (a b c d : Char) : Option Nat := do
  return (← hexValue? a) * 4096 + (← hexValue? b) * 256 + (← hexValue? c) * 16 + (← hexValue? d)

/-- The four digits of a `\u` escape take four bytes, whatever they are. -/
def notHex (s : List Char) : Fault :=
  if byteSize s < 4 then ⟨.endInString, 0⟩ else ⟨.invalidEscape, byteSize s - 4⟩

def readHex (s : List Char) : Except Fault (Nat × List Char) :=
  match s with
  | a :: b :: c :: d :: r =>
    match hexCode? a b c d with
    | some n => .ok (n, r)
    | none => .error (notHex s)
  | _ => .error (notHex s)

def isHighSurrogate (n : Nat) : Bool := 0xd800 ≤ n && n ≤ 0xdbff

def isLowSurrogate (n : Nat) : Bool := 0xdc00 ≤ n && n ≤ 0xdfff

def pairCode (high low : Nat) : Nat := (high - 0xd800) * 0x400 + (low - 0xdc00) + 0x10000

def readLow (high : Nat) : List Char → Except Fault (Char × List Char)
  | '\\' :: 'u' :: r => do
    let (low, r) ← readHex r
    if isLowSurrogate low then return (Char.ofNat (pairCode high low), r)
    else .error (.before r .unpairedSurrogate)
  | [] => .error (.before [] .endInString)
  | ['\\'] => .error (.before [] .endInString)
  | '\\' :: r => .error (.past r .brokenSurrogatePair)
  | r => .error (.past r .brokenSurrogatePair)

def readCodePoint (s : List Char) : Except Fault (Char × List Char) := do
  let (n, r) ← readHex s
  if isLowSurrogate n then .error (.before r .unpairedSurrogate)
  else if isHighSurrogate n then readLow n r
  else return (Char.ofNat n, r)

def escaped? : Char → Option Char
  | '"' => some '"'
  | '\\' => some '\\'
  | '/' => some '/'
  | 'b' => some '\x08'
  | 'f' => some '\x0c'
  | 'n' => some '\n'
  | 'r' => some '\r'
  | 't' => some '\t'
  | _ => none

def readEscape : List Char → Except Fault (Char × List Char)
  | [] => .error (.before [] .endInString)
  | c :: r =>
    match escaped? c with
    | some d => .ok (d, r)
    | none => if c = 'u' then readCodePoint r else .error (.past (c :: r) .invalidEscape)

def skipEscape : List Char → Except Fault (List Char)
  | [] => .error (.before [] .endInString)
  | c :: r =>
    match escaped? c with
    | some _ => .ok r
    | none =>
      if c = 'u' then (readHex r).map Prod.snd else .error (.past (c :: r) .invalidEscape)

def isControl (c : Char) : Bool := c.toNat < 0x20

theorem length_readHex {s r : List Char} {n : Nat} (h : readHex s = .ok (n, r)) :
    r.length < s.length := by
  unfold readHex at h
  split at h
  · split at h
    · cases h
      simp only [List.length_cons]
      omega
    · simp at h
  · simp at h

theorem length_readLow {high : Nat} {s r : List Char} {c : Char}
    (h : readLow high s = .ok (c, r)) : r.length < s.length := by
  unfold readLow at h
  split at h
  · next s =>
    cases hs : readHex s with
    | error e => simp [hs, bind, Except.bind] at h
    | ok p =>
      obtain ⟨low, t⟩ := p
      have := length_readHex hs
      simp only [hs, bind, Except.bind] at h
      split at h
      · simp only [pure, Except.pure, Except.ok.injEq, Prod.mk.injEq] at h
        obtain ⟨-, rfl⟩ := h
        simp only [List.length_cons]
        omega
      · simp at h
  all_goals simp at h

theorem length_readCodePoint {s r : List Char} {c : Char} (h : readCodePoint s = .ok (c, r)) :
    r.length < s.length := by
  unfold readCodePoint at h
  cases hs : readHex s with
  | error e => simp [hs, bind, Except.bind] at h
  | ok p =>
    obtain ⟨n, t⟩ := p
    have ht := length_readHex hs
    simp only [hs, bind, Except.bind] at h
    split at h
    · simp at h
    · split at h
      · exact Nat.lt_trans (length_readLow h) ht
      · cases h
        exact ht

theorem length_readEscape {s r : List Char} {c : Char} (h : readEscape s = .ok (c, r)) :
    r.length < s.length := by
  unfold readEscape at h
  split at h
  · simp at h
  · split at h
    · cases h
      simp
    · split at h
      · exact Nat.lt_succ_of_lt (length_readCodePoint h)
      · simp at h

theorem length_skipEscape {s r : List Char} (h : skipEscape s = .ok r) : r.length < s.length := by
  unfold skipEscape at h
  split at h
  · simp at h
  · next c t =>
    split at h
    · cases h
      simp
    · split at h
      · cases ht : readHex t with
        | error e => simp [ht, Except.map] at h
        | ok p =>
          obtain ⟨n, u⟩ := p
          simp only [ht, Except.map, Except.ok.injEq] at h
          subst h
          exact Nat.lt_succ_of_lt (length_readHex ht)
      · simp at h

def readString (s : List Char) : Except Fault (List Char × List Char) :=
  match s with
  | [] => .error (.before [] .endInString)
  | c :: r =>
    if c = '"' then .ok ([], r)
    else if c = '\\' then
      match _h : readEscape r with
      | .error e => .error e
      | .ok (d, t) => (readString t).map fun (cs, u) => (d :: cs, u)
    else if isControl c then .error (.past (c :: r) .controlCharacter)
    else (readString r).map fun (cs, u) => (c :: cs, u)
termination_by s.length
decreasing_by
  · exact Nat.lt_succ_of_lt (length_readEscape _h)
  · simp

def skipString (s : List Char) : Except Fault (List Char) :=
  match s with
  | [] => .error (.before [] .endInString)
  | c :: r =>
    if c = '"' then .ok r
    else if c = '\\' then
      match _h : skipEscape r with
      | .error e => .error e
      | .ok t => skipString t
    else if isControl c then .error (.before (c :: r) .controlCharacter)
    else skipString r
termination_by s.length
decreasing_by
  · exact Nat.lt_succ_of_lt (length_skipEscape _h)
  · simp

theorem length_readString {s r : List Char} {cs : List Char} (h : readString s = .ok (cs, r)) :
    r.length < s.length := by
  fun_induction readString s generalizing cs with
  | case1 => simp at h
  | case2 r' => simp_all
  | case3 r' e he => simp at h
  | case4 r' d t ht _ ih =>
    cases hs : readString t with
    | error e => simp [hs, Except.map] at h
    | ok p =>
      obtain ⟨ds, u⟩ := p
      simp only [hs, Except.map, Except.ok.injEq, Prod.mk.injEq] at h
      obtain ⟨rfl, rfl⟩ := h
      have := ih hs
      have := length_readEscape ht
      simp only [List.length_cons]
      omega
  | case5 => simp at h
  | case6 c r' hc hb hd ih =>
    cases hs : readString r' with
    | error e => simp [hs, Except.map] at h
    | ok p =>
      obtain ⟨ds, u⟩ := p
      simp only [hs, Except.map, Except.ok.injEq, Prod.mk.injEq] at h
      obtain ⟨rfl, rfl⟩ := h
      exact Nat.lt_succ_of_lt (ih hs)

theorem length_skipString {s r : List Char} (h : skipString s = .ok r) : r.length < s.length := by
  fun_induction skipString s with
  | case1 => simp at h
  | case2 r' => simp_all
  | case3 r' e he => simp at h
  | case4 r' t ht _ ih =>
    have := ih h
    have := length_skipEscape ht
    simp only [List.length_cons]
    omega
  | case5 => simp at h
  | case6 c r' hc hb hd ih => exact Nat.lt_succ_of_lt (ih h)

def escape (c : Char) : List Char :=
  if c = '"' then ['\\', '"']
  else if c = '\\' then ['\\', '\\']
  else if c = '\x08' then ['\\', 'b']
  else if c = '\x0c' then ['\\', 'f']
  else if c = '\n' then ['\\', 'n']
  else if c = '\r' then ['\\', 'r']
  else if c = '\t' then ['\\', 't']
  else if isControl c then
    ['\\', 'u', '0', '0', Nat.digitChar (c.toNat / 16), Nat.digitChar (c.toNat % 16)]
  else [c]

def quoteChars (s : List Char) : List Char :=
  '"' :: (s.flatMap escape ++ ['"'])

def quote (s : String) : String := String.ofList (quoteChars s.toList)

end Locator.Json
