import Locator.Json.Skip
import Mathlib.Tactic.Lemma

/-! `Body` is any well-formed string; `Spells` relates it to what it stands for, if to anything. -/

namespace Locator.Json

def Blanks (w : List Char) : Prop := ∀ c ∈ w, c ∈ [' ', '\t', '\n', '\r']

def Digit (c : Char) : Prop := '0' ≤ c ∧ c ≤ '9'

def Digits (ds : List Char) : Prop := ds ≠ [] ∧ ∀ d ∈ ds, Digit d

inductive Whole : List Char → Prop
  | zero : Whole ['0']
  | digits {d : Char} {ds : List Char} : Digit d → d ≠ '0' → (∀ c ∈ ds, Digit c) → Whole (d :: ds)

inductive Fraction : List Char → Prop
  | absent : Fraction []
  | point {ds : List Char} : Digits ds → Fraction ('.' :: ds)

inductive Exponent : List Char → Prop
  | absent : Exponent []
  | power {e : Char} {sign ds : List Char} : e ∈ ['e', 'E'] → sign ∈ [[], ['+'], ['-']] →
      Digits ds → Exponent (e :: (sign ++ ds))

inductive Magnitude : List Char → Prop
  | parts {i f e : List Char} : Whole i → Fraction f → Exponent e → Magnitude (i ++ (f ++ e))

inductive HexDigit (c : Char) : Nat → Prop
  | digit {n : Nat} : n < 10 → c.toNat = '0'.toNat + n → HexDigit c n
  | lower {n : Nat} : n < 6 → c.toNat = 'a'.toNat + n → HexDigit c (10 + n)
  | upper {n : Nat} : n < 6 → c.toNat = 'A'.toNat + n → HexDigit c (10 + n)

inductive HexCode : List Char → Nat → Prop
  | digits {a b c d : Char} {i j k l : Nat} : HexDigit a i → HexDigit b j → HexDigit c k →
      HexDigit d l → HexCode [a, b, c, d] (((i * 16 + j) * 16 + k) * 16 + l)

def shortEscapes : List (Char × Char) :=
  [('"', '"'), ('\\', '\\'), ('/', '/'), ('b', '\x08'), ('f', '\x0c'), ('n', '\n'), ('r', '\r'),
    ('t', '\t')]

def Plain (c : Char) : Prop := c ≠ '"' ∧ c ≠ '\\' ∧ 0x20 ≤ c.toNat

inductive Body : List Char → Prop
  | nil : Body []
  | plain {c : Char} {s : List Char} : Plain c → Body s → Body (c :: s)
  | short {e c : Char} {s : List Char} : (e, c) ∈ shortEscapes → Body s → Body ('\\' :: e :: s)
  | code {h s : List Char} {n : Nat} : HexCode h n → Body s → Body ('\\' :: 'u' :: (h ++ s))

/-- A surrogate is the code of no character, so `code` does not apply to it. -/
inductive Spells : List Char → List Char → Prop
  | nil : Spells [] []
  | plain {c : Char} {s cs : List Char} : Plain c → Spells s cs → Spells (c :: s) (c :: cs)
  | short {e c : Char} {s cs : List Char} : (e, c) ∈ shortEscapes → Spells s cs →
      Spells ('\\' :: e :: s) (c :: cs)
  | code {c : Char} {h s cs : List Char} : HexCode h c.toNat → Spells s cs →
      Spells ('\\' :: 'u' :: (h ++ s)) (c :: cs)
  | pair {c : Char} {h l s cs : List Char} {i j : Nat} : HexCode h (0xd800 + i) →
      HexCode l (0xdc00 + j) → i < 0x400 → j < 0x400 → c.toNat = 0x10000 + i * 0x400 + j →
      Spells s cs → Spells ('\\' :: 'u' :: (h ++ ('\\' :: 'u' :: (l ++ s)))) (c :: cs)

inductive Scalar : List Char → Prop
  | null : Scalar ['n', 'u', 'l', 'l']
  | yes : Scalar ['t', 'r', 'u', 'e']
  | no : Scalar ['f', 'a', 'l', 's', 'e']
  | positive {t : List Char} : Magnitude t → Scalar t
  | negative {t : List Char} : Magnitude t → Scalar ('-' :: t)
  | string {t : List Char} : Body t → Scalar ('"' :: (t ++ ['"']))

/-- A member of an object: the text of its key between the quotes, and the text of its value. An
element of a list is one without a key. -/
structure Member where
  key : List Char
  value : List Char
deriving DecidableEq, Repr

def Bracket.opening : Bracket → Char
  | .list => '['
  | .object => '{'

inductive Lead : Bracket → List Char → List Char → Prop
  | element {w : List Char} : Blanks w → Lead .list [] w
  | member {w₁ w₂ w₃ k : List Char} : Blanks w₁ → Body k → Blanks w₂ → Blanks w₃ →
      Lead .object k (w₁ ++ '"' :: (k ++ '"' :: (w₂ ++ ':' :: w₃)))

mutual

inductive Value : List Char → Prop
  | scalar {t : List Char} : Scalar t → Value t
  | empty (b : Bracket) {w : List Char} : Blanks w → Value (b.opening :: (w ++ [b.closing]))
  | filled (b : Bracket) {ms : List Member} {t : List Char} : Items b ms t →
      Value (b.opening :: (t ++ [b.closing]))

inductive Items : Bracket → List Member → List Char → Prop
  | last {b : Bracket} {k l v w : List Char} : Lead b k l → Value v → Blanks w →
      Items b [⟨k, v⟩] (l ++ (v ++ w))
  | more {b : Bracket} {k l v w t : List Char} {ms : List Member} : Lead b k l → Value v →
      Blanks w → Items b ms t → Items b (⟨k, v⟩ :: ms) (l ++ (v ++ (w ++ ',' :: t)))

end

inductive Rest (b : Bracket) : List Member → List Char → Prop
  | none {w : List Char} : Blanks w → Rest b [] w
  | more {w t : List Char} {ms : List Member} : Blanks w → Items b ms t → Rest b ms (w ++ ',' :: t)

inductive Contents (b : Bracket) : List Member → List Char → Prop
  | empty {w : List Char} : Blanks w → Contents b [] w
  | filled {ms : List Member} {t : List Char} : Items b ms t → Contents b ms t

section Induction

variable {P : List Char → Prop} {Q : Bracket → List Member → List Char → Prop}

lemma value_and_items_induction (scalar : ∀ {t}, Scalar t → P t)
    (empty : ∀ (b : Bracket) {w}, Blanks w → P (b.opening :: (w ++ [b.closing])))
    (filled : ∀ (b : Bracket) {ms t}, Items b ms t → Q b ms t →
      P (b.opening :: (t ++ [b.closing])))
    (last : ∀ {b k l v w}, Lead b k l → Value v → P v → Blanks w →
      Q b [⟨k, v⟩] (l ++ (v ++ w)))
    (more : ∀ {b k l v w t ms}, Lead b k l → Value v → P v → Blanks w → Items b ms t → Q b ms t →
      Q b (⟨k, v⟩ :: ms) (l ++ (v ++ (w ++ ',' :: t)))) :
    (∀ {t}, Value t → P t) ∧ ∀ {b ms t}, Items b ms t → Q b ms t := by
  constructor
  · intro t h
    exact @Value.rec (fun t _ => P t) (fun b ms t _ => Q b ms t) scalar empty
      (fun b _ _ h hq => filled b h hq) (fun hl hv hw hp => last hl hv hp hw)
      (fun hl hv hw ht hp hq => more hl hv hp hw ht hq) t h
  · intro b ms t h
    exact @Items.rec (fun t _ => P t) (fun b ms t _ => Q b ms t) scalar empty
      (fun b _ _ h hq => filled b h hq) (fun hl hv hw hp => last hl hv hp hw)
      (fun hl hv hw ht hp hq => more hl hv hp hw ht hq) b ms t h

end Induction

lemma Rest.items {b : Bracket} {k l v t : List Char} {ms : List Member} (hl : Lead b k l)
    (hv : Value v) (h : Rest b ms t) : Items b (⟨k, v⟩ :: ms) (l ++ (v ++ t)) := by
  cases h with
  | none hw => exact .last hl hv hw
  | more hw hi => exact .more hl hv hw hi

lemma Items.uncons {b : Bracket} {ms : List Member} {t : List Char} (h : Items b ms t) :
    ∃ k l v ms' u, Lead b k l ∧ Value v ∧ Rest b ms' u ∧ ms = ⟨k, v⟩ :: ms' ∧
      t = l ++ (v ++ u) := by
  cases h with
  | last hl hv hw => exact ⟨_, _, _, _, _, hl, hv, .none hw, rfl, rfl⟩
  | more hl hv hw hi => exact ⟨_, _, _, _, _, hl, hv, .more hw hi, rfl, rfl⟩

end Locator.Json
