import Locator.Json.Structure
import Locator.Proofs.Json.Grammar
import Locator.Proofs.Results
import Mathlib.Data.List.DropRight

/-! The readers of blanks, words and numbers take exactly what the grammar allows. -/

namespace Locator.Json

lemma isBlank_iff {c : Char} : isBlank c = true ↔ c ∈ [' ', '\t', '\n', '\r'] := by
  simp [isBlank, or_assoc]

lemma skipBlank_sound (s : List Char) : ∃ w, Blanks w ∧ s = w ++ skipBlank s := by
  refine ⟨s.takeWhile isBlank, ?_, List.takeWhile_append_dropWhile.symm⟩
  intro c hc
  exact isBlank_iff.mp (List.mem_takeWhile_imp hc)

lemma skipBlank_append {w : List Char} (hw : Blanks w) (s : List Char) :
    skipBlank (w ++ s) = skipBlank s :=
  List.dropWhile_append_of_pos fun c hc => isBlank_iff.mpr (hw c hc)

lemma skipBlank_cons {c : Char} (hc : isBlank c = false) (s : List Char) :
    skipBlank (c :: s) = c :: s := by
  simp [skipBlank, hc]

lemma skipBlank_complete {w : List Char} (hw : Blanks w) {c : Char} (hc : isBlank c = false)
    (s : List Char) : skipBlank (w ++ c :: s) = c :: s := by
  rw [skipBlank_append hw, skipBlank_cons hc]

lemma skipBlank_skipBlank (s : List Char) : skipBlank (skipBlank s) = skipBlank s :=
  List.dropWhile_idempotent _ _

lemma skipBlank_eq_nil {s : List Char} : skipBlank s = [] ↔ Blanks s := by
  constructor
  · intro h
    obtain ⟨w, hw, hs⟩ := skipBlank_sound s
    rw [hs, h, List.append_nil]
    exact hw
  · intro h
    have hs := skipBlank_append h []
    rwa [List.append_nil] at hs

lemma Blanks.nil : Blanks [] := by simp [Blanks]

lemma Blanks.append {w₁ w₂ : List Char} (h₁ : Blanks w₁) (h₂ : Blanks w₂) :
    Blanks (w₁ ++ w₂) := by
  intro c hc
  rcases List.mem_append.mp hc with hc | hc
  · exact h₁ c hc
  · exact h₂ c hc

lemma readLetters_sound {word s r : List Char} (h : readLetters word s = .ok r) :
    s = word ++ r := by
  induction word generalizing s with
  | nil => simpa [readLetters] using h
  | cons c word ih =>
    cases s with
    | nil => simp [readLetters] at h
    | cons d s =>
      rw [readLetters] at h
      split at h
      · next hcd => simp [hcd, ih h]
      · simp at h

lemma readLetters_complete (word r : List Char) : readLetters word (word ++ r) = .ok r := by
  induction word with
  | nil => rfl
  | cons c word ih => simp [readLetters, ih]

def Stops : List Char → Prop
  | [] => True
  | c :: _ => ¬ Digit c ∧ c ≠ '.' ∧ c ≠ 'e' ∧ c ≠ 'E'

lemma isDigit_iff {c : Char} : c.isDigit = true ↔ Digit c := by
  simp [Char.isDigit, Digit, Char.le_def, UInt32.le_iff_toNat_le]

lemma skipDigits_sound (s : List Char) :
    ∃ ds, (∀ d ∈ ds, Digit d) ∧ s = ds ++ skipDigits s := by
  refine ⟨s.takeWhile Char.isDigit, ?_, List.takeWhile_append_dropWhile.symm⟩
  intro d hd
  exact isDigit_iff.mp (List.mem_takeWhile_imp hd)

lemma skipDigits_complete {ds : List Char} (hds : ∀ d ∈ ds, Digit d) {s : List Char}
    (hs : startsWithDigit s = false) : skipDigits (ds ++ s) = s := by
  rw [skipDigits, List.dropWhile_append_of_pos fun d hd => isDigit_iff.mpr (hds d hd)]
  cases s with
  | nil => rfl
  | cons c s =>
    simp only [startsWithDigit] at hs
    simp [hs]

lemma startsWithDigit_sound {s : List Char} (h : startsWithDigit s = true) :
    ∃ ds, Digits ds ∧ s = ds ++ skipDigits s := by
  obtain ⟨ds, hds, hs⟩ := skipDigits_sound s
  refine ⟨ds, ⟨?_, hds⟩, hs⟩
  rintro rfl
  have hlt := length_skipDigits_lt h
  rw [List.nil_append] at hs
  rw [← hs] at hlt
  exact Nat.lt_irrefl _ hlt

lemma startsWithDigit_of_digits {ds : List Char} (h : Digits ds) (s : List Char) :
    startsWithDigit (ds ++ s) = true := by
  obtain ⟨hne, hds⟩ := h
  cases ds with
  | nil => exact absurd rfl hne
  | cons d ds => exact isDigit_iff.mpr (hds d (by simp))

lemma Stops.startsWithDigit {s : List Char} (h : Stops s) : startsWithDigit s = false := by
  cases s with
  | nil => rfl
  | cons c s => simpa [Json.startsWithDigit, ← isDigit_iff] using h.1

lemma readSign_sound (s : List Char) :
    ∃ sign ∈ [[], ['+'], ['-']], s = sign ++ (readSign s).2 := by
  unfold readSign
  split
  · exact ⟨['+'], by simp, rfl⟩
  · exact ⟨['-'], by simp, rfl⟩
  · exact ⟨[], by simp, rfl⟩

lemma readSign_complete {sign : List Char} (hsign : sign ∈ [[], ['+'], ['-']]) {s : List Char}
    (hs : startsWithDigit s = true) : (readSign (sign ++ s)).2 = s := by
  simp only [List.mem_cons, List.not_mem_nil, or_false] at hsign
  rcases hsign with rfl | rfl | rfl
  · rw [List.nil_append]
    unfold readSign
    split
    · simp [startsWithDigit] at hs
    · simp [startsWithDigit] at hs
    · rfl
  · rfl
  · rfl

lemma skipExponent_sound {s r : List Char} (h : skipExponent s = .ok r) :
    ∃ sign ∈ [[], ['+'], ['-']], ∃ ds, Digits ds ∧ s = sign ++ (ds ++ r) := by
  unfold skipExponent at h
  split at h
  · next hd =>
    obtain ⟨sign, hsign, hs⟩ := readSign_sound s
    obtain ⟨ds, hds, ht⟩ := startsWithDigit_sound hd
    cases h
    exact ⟨sign, hsign, ds, hds, by rw [← ht, ← hs]⟩
  · simp at h

lemma skipExponent?_sound {s r : List Char} (h : skipExponent? s = .ok r) :
    ∃ e, Exponent e ∧ s = e ++ r := by
  unfold skipExponent? at h
  split at h
  · obtain ⟨sign, hsign, ds, hds, rfl⟩ := skipExponent_sound h
    exact ⟨'e' :: (sign ++ ds), .power (by simp) hsign hds, by simp⟩
  · obtain ⟨sign, hsign, ds, hds, rfl⟩ := skipExponent_sound h
    exact ⟨'E' :: (sign ++ ds), .power (by simp) hsign hds, by simp⟩
  · cases h
    exact ⟨[], .absent, rfl⟩

lemma skipFraction?_sound {s r : List Char} (h : skipFraction? s = .ok r) :
    ∃ f e, Fraction f ∧ Exponent e ∧ s = f ++ (e ++ r) := by
  unfold skipFraction? at h
  split at h
  · split at h
    · next hd =>
      obtain ⟨ds, hds, ht⟩ := startsWithDigit_sound hd
      obtain ⟨e, he, hr⟩ := skipExponent?_sound h
      exact ⟨'.' :: ds, e, .point hds, he, by rw [ht, hr]; rfl⟩
    · simp at h
  · obtain ⟨e, he, hr⟩ := skipExponent?_sound h
    exact ⟨[], e, .absent, he, hr⟩

lemma skipNumber_sound {s r : List Char} (h : skipNumber s = .ok r) :
    ∃ t, Magnitude t ∧ s = t ++ r := by
  unfold skipNumber at h
  split at h
  · split at h
    · simp at h
    · obtain ⟨f, e, hf, he, rfl⟩ := skipFraction?_sound h
      exact ⟨_, .parts .zero hf he, by simp⟩
  · next hzero =>
    split at h
    · next hd =>
      obtain ⟨f, e, hf, he, hr⟩ := skipFraction?_sound h
      obtain ⟨ds, ⟨hne, hds⟩, hs⟩ := startsWithDigit_sound hd
      cases ds with
      | nil => exact absurd rfl hne
      | cons d ds =>
        rw [hr] at hs
        have hd0 : d ≠ '0' := by
          rintro rfl
          exact hzero _ hs
        have hi : Whole (d :: ds) :=
          .digits (hds d (by simp)) hd0 fun c hc => hds c (List.mem_cons_of_mem d hc)
        exact ⟨d :: ds ++ (f ++ e), .parts hi hf he, by simp [hs]⟩
    · simp at h

lemma skipExponent?_complete {e r : List Char} (he : Exponent e) (hr : Stops r) :
    skipExponent? (e ++ r) = .ok r := by
  cases he with
  | absent =>
    cases r with
    | nil => rfl
    | cons c r =>
      obtain ⟨-, -, h₁, h₂⟩ := hr
      unfold skipExponent?
      split <;> simp_all
  | @power c sign ds hc hsign hds =>
    have hd := startsWithDigit_of_digits hds r
    have hx : skipExponent (sign ++ (ds ++ r)) = .ok r := by
      rw [skipExponent, readSign_complete hsign hd, if_pos hd,
        skipDigits_complete hds.2 hr.startsWithDigit]
    simp only [List.mem_cons, List.not_mem_nil, or_false] at hc
    rcases hc with rfl | rfl
    · simpa [skipExponent?] using hx
    · simpa [skipExponent?] using hx

lemma startsWithDigit_exponent {e r : List Char} (he : Exponent e) (hr : Stops r) :
    startsWithDigit (e ++ r) = false := by
  cases he with
  | absent => exact hr.startsWithDigit
  | power hc =>
    simp only [List.mem_cons, List.not_mem_nil, or_false] at hc
    rcases hc with rfl | rfl <;> rfl

lemma skipFraction?_complete {f e r : List Char} (hf : Fraction f) (he : Exponent e)
    (hr : Stops r) : skipFraction? (f ++ (e ++ r)) = .ok r := by
  cases hf with
  | absent =>
    have hx := skipExponent?_complete he hr
    rw [List.nil_append]
    unfold skipFraction?
    split
    · next t ht =>
      cases he with
      | absent =>
        rw [List.nil_append] at ht
        subst ht
        exact absurd rfl hr.2.1
      | power hc =>
        obtain ⟨rfl, -⟩ := List.cons.inj ht
        simp at hc
    · exact hx
  | point hds =>
    simp only [List.cons_append, skipFraction?, startsWithDigit_of_digits hds, if_true,
      skipDigits_complete hds.2 (startsWithDigit_exponent he hr)]
    exact skipExponent?_complete he hr

lemma startsWithDigit_fraction {f e r : List Char} (hf : Fraction f) (he : Exponent e)
    (hr : Stops r) : startsWithDigit (f ++ (e ++ r)) = false := by
  cases hf with
  | absent => simpa using startsWithDigit_exponent he hr
  | point => rfl

lemma skipNumber_complete {t r : List Char} (ht : Magnitude t) (hr : Stops r) :
    skipNumber (t ++ r) = .ok r := by
  obtain @⟨i, f, e, hi, hf, he⟩ := ht
  cases hi with
  | zero =>
    have hd := startsWithDigit_fraction hf he hr
    simp only [List.cons_append, List.nil_append, List.append_assoc, skipNumber, hd,
      Bool.false_eq_true, if_false]
    exact skipFraction?_complete hf he hr
  | @digits d ds hd hd0 hds =>
    have hstart : startsWithDigit (d :: ds ++ (f ++ (e ++ r))) = true := isDigit_iff.mpr hd
    have hall : ∀ c ∈ d :: ds, Digit c := by
      intro c hc
      rcases List.mem_cons.mp hc with rfl | hc
      · exact hd
      · exact hds c hc
    have hskip := skipDigits_complete hall (startsWithDigit_fraction hf he hr)
    rw [List.append_assoc, List.append_assoc]
    unfold skipNumber
    split
    · next hzero => exact absurd (List.cons.inj hzero).1 hd0
    · rw [if_pos hstart, hskip]
      exact skipFraction?_complete hf he hr

end Locator.Json
