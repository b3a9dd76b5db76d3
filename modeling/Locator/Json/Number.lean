import Locator.Json.Fault
import Locator.Decimal.Shortest

/-! `skipNumber` checks the shape of a number; `readNumber` also finds its value. -/

namespace Locator.Json

def digit (c : Char) : Nat := c.toNat - 48

def maxSignificand : Nat := Nat.pow 2 64 - 1

def maxExponent : Nat := Nat.pow 2 31 - 1

def skipDigits (s : List Char) : List Char := s.dropWhile Char.isDigit

def startsWithDigit : List Char → Bool
  | c :: _ => c.isDigit
  | [] => false

def readSign : List Char → Bool × List Char
  | '+' :: r => (false, r)
  | '-' :: r => (true, r)
  | r => (false, r)

def skipExponent (s : List Char) : Except Fault (List Char) :=
  if startsWithDigit (readSign s).2 then .ok (skipDigits (readSign s).2)
  else .error (.past (readSign s).2 .invalidNumber)

def skipExponent? : List Char → Except Fault (List Char)
  | 'e' :: r => skipExponent r
  | 'E' :: r => skipExponent r
  | r => .ok r

def skipFraction? : List Char → Except Fault (List Char)
  | '.' :: r =>
    if startsWithDigit r then skipExponent? (skipDigits r) else .error (.past r .invalidNumber)
  | r => skipExponent? r

def skipNumber : List Char → Except Fault (List Char)
  | '0' :: r =>
    if startsWithDigit r then .error (.past r .invalidNumber) else skipFraction? r
  | s =>
    if startsWithDigit s then skipFraction? (skipDigits s) else .error (.past s .invalidNumber)

def readDigits (significand count : Nat) : List Char → Nat × Nat × List Char
  | [] => (significand, count, [])
  | c :: r =>
    if c.isDigit ∧ significand * 10 + digit c ≤ maxSignificand then
      readDigits (significand * 10 + digit c) (count + 1) r
    else (significand, count, c :: r)

/-- Adds digits to an exponent; none, with what is left, after the digit that makes it too large. -/
def readExponentDigits (e : Nat) : List Char → Option Nat × List Char
  | [] => (some e, [])
  | c :: r =>
    if c.isDigit then
      if e * 10 + digit c ≤ maxExponent then readExponentDigits (e * 10 + digit c) r else (none, r)
    else (some e, c :: r)

def floatFound (negative : Bool) (significand : Nat) (e : Int) (r : List Char) :
    Except Fault (Found × List Char) :=
  match Binary64.ofDecimal? significand e with
  | some x => .ok (.float (Decimal.text negative x), r)
  | none => .error (.before r .numberOutOfRange)

def readExponent (negative : Bool) (significand : Nat) (e : Int) (s : List Char) :
    Except Fault (Found × List Char) :=
  let (down, r) := readSign s
  match r with
  | [] => .error (.before [] .endInValue)
  | c :: t =>
    if c.isDigit then
      match readExponentDigits (digit c) t with
      | (some k, u) => floatFound negative significand (if down then e - k else e + k) u
      | (none, u) =>
        if significand = 0 ∨ down then
          .ok (.float (Decimal.text negative .zero), skipDigits u)
        else .error (.before u .numberOutOfRange)
    else .error (.past r .invalidNumber)

def readExponent? (negative : Bool) (significand : Nat) (e : Int) :
    List Char → Except Fault (Found × List Char)
  | 'e' :: r => readExponent negative significand e r
  | 'E' :: r => readExponent negative significand e r
  | r => floatFound negative significand e r

def readFraction (negative : Bool) (significand : Nat) (e : Int) (s : List Char) :
    Except Fault (Found × List Char) :=
  if startsWithDigit s then
    let (significand, count, r) := readDigits significand 0 s
    readExponent? negative significand (e - count) (skipDigits r)
  else if s = [] then .error (.before [] .endInValue)
  else .error (.past s .invalidNumber)

/-- An integer of 64 bits; minus zero and what lies below the least integer are floats. -/
def integerFound (negative : Bool) (n : Nat) (r : List Char) : Except Fault (Found × List Char) :=
  if !negative then .ok (.integer n, r)
  else if n = 0 ∨ Nat.pow 2 63 < n then floatFound true n 0 r
  else .ok (.integer (-n), r)

def readTail (negative : Bool) (significand extra : Nat) :
    List Char → Except Fault (Found × List Char)
  | '.' :: r => readFraction negative significand extra r
  | 'e' :: r => readExponent negative significand extra r
  | 'E' :: r => readExponent negative significand extra r
  | r =>
    if extra = 0 then integerFound negative significand r
    else floatFound negative significand extra r

def readNumber (negative : Bool) : List Char → Except Fault (Found × List Char)
  | [] => .error (.before [] .endInValue)
  | '0' :: r =>
    if startsWithDigit r then .error (.past r .invalidNumber) else readTail negative 0 0 r
  | s =>
    if startsWithDigit s then
      let (significand, _, r) := readDigits 0 0 s
      readTail negative significand (r.takeWhile Char.isDigit).length (skipDigits r)
    else .error (.past s .invalidNumber)

theorem length_skipDigits_le (s : List Char) : (skipDigits s).length ≤ s.length :=
  (List.dropWhile_suffix Char.isDigit).length_le

theorem length_readSign_le (s : List Char) : (readSign s).2.length ≤ s.length := by
  unfold readSign
  split <;> simp

theorem length_skipExponent_le {s r : List Char} (h : skipExponent s = .ok r) :
    r.length ≤ s.length := by
  unfold skipExponent at h
  split at h
  · cases h
    exact Nat.le_trans (length_skipDigits_le _) (length_readSign_le s)
  · simp at h

theorem length_skipExponent?_le {s r : List Char} (h : skipExponent? s = .ok r) :
    r.length ≤ s.length := by
  unfold skipExponent? at h
  split at h
  · exact Nat.le_succ_of_le (length_skipExponent_le h)
  · exact Nat.le_succ_of_le (length_skipExponent_le h)
  · cases h
    exact Nat.le_refl _

theorem length_skipFraction?_le {s r : List Char} (h : skipFraction? s = .ok r) :
    r.length ≤ s.length := by
  unfold skipFraction? at h
  split at h
  · next t =>
    split at h
    · exact Nat.le_succ_of_le
        (Nat.le_trans (length_skipExponent?_le h) (length_skipDigits_le t))
    · simp at h
  · exact length_skipExponent?_le h

theorem length_skipDigits_lt {s : List Char} (h : startsWithDigit s = true) :
    (skipDigits s).length < s.length := by
  cases s with
  | nil => simp [startsWithDigit] at h
  | cons c s =>
    simp only [startsWithDigit] at h
    simp only [skipDigits, List.dropWhile_cons, h, if_true, List.length_cons]
    exact Nat.lt_succ_of_le (length_skipDigits_le s)

theorem length_skipNumber {s r : List Char} (h : skipNumber s = .ok r) : r.length < s.length := by
  unfold skipNumber at h
  split at h
  · split at h
    · simp at h
    · exact Nat.lt_succ_of_le (length_skipFraction?_le h)
  · split at h
    · next hs => exact Nat.lt_of_le_of_lt (length_skipFraction?_le h) (length_skipDigits_lt hs)
    · simp at h

end Locator.Json
