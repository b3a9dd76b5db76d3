import Locator.Proofs.Json.Tokens
import Locator.Proofs.Text.Utf8

namespace Locator.Json

lemma char_le_iff {c d : Char} : c ≤ d ↔ c.toNat ≤ d.toNat := by
  rw [Char.le_def, UInt32.le_iff_toNat_le]
  rfl

lemma hexValue?_eq_some {c : Char} {n : Nat} : hexValue? c = some n ↔ HexDigit c n := by
  have h0 : '0'.toNat = 48 := rfl
  have h9 : '9'.toNat = 57 := rfl
  have ha : 'a'.toNat = 97 := rfl
  have hf : 'f'.toNat = 102 := rfl
  have hA : 'A'.toNat = 65 := rfl
  have hF : 'F'.toNat = 70 := rfl
  simp only [hexValue?, char_le_iff, h0, h9, ha, hf, hA, hF]
  constructor
  · intro h
    split at h
    · obtain rfl := Option.some.inj h
      exact .digit (by omega) (by omega)
    split at h
    · obtain rfl := Option.some.inj h
      rw [show c.toNat - 87 = 10 + (c.toNat - 97) by omega]
      exact .lower (by omega) (by omega)
    split at h
    · obtain rfl := Option.some.inj h
      rw [show c.toNat - 55 = 10 + (c.toNat - 65) by omega]
      exact .upper (by omega) (by omega)
    · simp at h
  · intro h
    cases h with
    | digit hn hc =>
      rw [if_pos (by omega)]
      congr 1
      omega
    | lower hn hc =>
      rw [if_neg (by omega), if_pos (by omega)]
      congr 1
      omega
    | upper hn hc =>
      rw [if_neg (by omega), if_neg (by omega), if_pos (by omega)]
      congr 1
      omega

lemma HexDigit.lt {c : Char} {n : Nat} (h : HexDigit c n) : n < 16 := by
  cases h <;> omega

lemma HexCode.lt {h : List Char} {n : Nat} (hn : HexCode h n) : n < 0x10000 := by
  obtain ⟨ha, hb, hc, hd⟩ := hn
  have := ha.lt
  have := hb.lt
  have := hc.lt
  have := hd.lt
  omega

lemma readHex_sound {s r : List Char} {n : Nat} (h : readHex s = .ok (n, r)) :
    ∃ t, HexCode t n ∧ s = t ++ r := by
  unfold readHex at h
  split at h
  · next a b c d rest =>
    cases ha : hexValue? a with
    | none => simp [hexCode?, ha] at h
    | some i =>
      cases hb : hexValue? b with
      | none => simp [hexCode?, ha, hb] at h
      | some j =>
        cases hc : hexValue? c with
        | none => simp [hexCode?, ha, hb, hc] at h
        | some k =>
          cases hd : hexValue? d with
          | none => simp [hexCode?, ha, hb, hc, hd] at h
          | some l =>
            simp only [hexCode?, ha, hb, hc, hd, Option.pure_def, Option.bind_eq_bind,
              Option.bind_some, Except.ok.injEq, Prod.mk.injEq] at h
            obtain ⟨rfl, rfl⟩ := h
            refine ⟨[a, b, c, d], ?_, rfl⟩
            rw [show i * 4096 + j * 256 + k * 16 + l = ((i * 16 + j) * 16 + k) * 16 + l by omega]
            exact .digits (hexValue?_eq_some.mp ha) (hexValue?_eq_some.mp hb)
              (hexValue?_eq_some.mp hc) (hexValue?_eq_some.mp hd)
  · simp at h

lemma readHex_complete {t : List Char} {n : Nat} (h : HexCode t n) (r : List Char) :
    readHex (t ++ r) = .ok (n, r) := by
  obtain ⟨ha, hb, hc, hd⟩ := h
  simp only [readHex, List.cons_append, List.nil_append, hexCode?, hexValue?_eq_some.mpr ha,
    hexValue?_eq_some.mpr hb, hexValue?_eq_some.mpr hc, hexValue?_eq_some.mpr hd, Option.pure_def,
    Option.bind_eq_bind, Option.bind_some]
  congr 2
  omega

lemma escaped?_eq_some {e c : Char} : escaped? e = some c ↔ (e, c) ∈ shortEscapes := by
  constructor
  · intro h
    unfold escaped? at h
    split at h
    all_goals
      simp at h
    all_goals
      subst h
      decide
  · intro h
    simp only [shortEscapes, List.mem_cons, Prod.mk.injEq, List.not_mem_nil, or_false] at h
    rcases h with ⟨rfl, rfl⟩ | ⟨rfl, rfl⟩ | ⟨rfl, rfl⟩ | ⟨rfl, rfl⟩ | ⟨rfl, rfl⟩ | ⟨rfl, rfl⟩ |
      ⟨rfl, rfl⟩ | ⟨rfl, rfl⟩ <;> rfl

lemma readLow_sound {high : Nat} {s r : List Char} {c : Char} (hh : isHighSurrogate high = true)
    (h : readLow high s = .ok (c, r)) :
    ∃ i j l, high = 0xd800 + i ∧ i < 0x400 ∧ j < 0x400 ∧ HexCode l (0xdc00 + j) ∧
      c.toNat = 0x10000 + i * 0x400 + j ∧ s = '\\' :: 'u' :: (l ++ r) := by
  unfold readLow at h
  split at h
  · next s =>
    obtain ⟨⟨low, t⟩, hs, hc⟩ := bind_eq_ok.mp h
    obtain ⟨l, hl, rfl⟩ := readHex_sound hs
    dsimp only at hc
    split at hc
    · next hlow =>
      obtain ⟨rfl, rfl⟩ := Prod.mk.inj (Except.ok.inj hc)
      simp only [isHighSurrogate, isLowSurrogate, Bool.and_eq_true, decide_eq_true_eq] at hh hlow
      refine ⟨high - 0xd800, low - 0xdc00, l, by omega, by omega, by omega, ?_, ?_, rfl⟩
      · rwa [Nat.add_sub_cancel' hlow.1]
      · simp only [pairCode]
        rw [Utf8.toNat_ofNat (Or.inr ⟨by omega, by omega⟩)]
        omega
    · simp at hc
  all_goals simp at h

lemma readCodePoint_sound {s r : List Char} {c : Char} (h : readCodePoint s = .ok (c, r)) :
    (∃ t, HexCode t c.toNat ∧ s = t ++ r) ∨
      ∃ i j t l, HexCode t (0xd800 + i) ∧ HexCode l (0xdc00 + j) ∧ i < 0x400 ∧ j < 0x400 ∧
        c.toNat = 0x10000 + i * 0x400 + j ∧ s = t ++ ('\\' :: 'u' :: (l ++ r)) := by
  obtain ⟨⟨n, u⟩, hs, hn⟩ := bind_eq_ok.mp h
  obtain ⟨t, ht, rfl⟩ := readHex_sound hs
  dsimp only at hn
  split at hn
  · simp at hn
  · next hlow =>
    split at hn
    · next hhigh =>
      obtain ⟨i, j, l, rfl, hi, hj, hl, hc, rfl⟩ := readLow_sound hhigh hn
      exact Or.inr ⟨i, j, t, l, ht, hl, hi, hj, hc, rfl⟩
    · next hhigh =>
      cases hn
      simp only [isHighSurrogate, isLowSurrogate, Bool.and_eq_true, decide_eq_true_eq] at hlow hhigh
      have hn := ht.lt
      refine Or.inl ⟨t, ?_, rfl⟩
      rwa [Utf8.toNat_ofNat (by unfold Nat.isValidChar; omega)]

lemma readCodePoint_code {t : List Char} {c : Char} (h : HexCode t c.toNat) (r : List Char) :
    readCodePoint (t ++ r) = .ok (c, r) := by
  have hv : c.toNat.isValidChar := c.valid
  have hlow : isLowSurrogate c.toNat = false := by
    simp only [isLowSurrogate, Bool.and_eq_false_iff, decide_eq_false_iff_not]
    unfold Nat.isValidChar at hv
    omega
  have hhigh : isHighSurrogate c.toNat = false := by
    simp only [isHighSurrogate, Bool.and_eq_false_iff, decide_eq_false_iff_not]
    unfold Nat.isValidChar at hv
    omega
  simp [readCodePoint, readHex_complete h, bind, Except.bind, hlow, hhigh, pure, Except.pure]

lemma readCodePoint_pair {t l : List Char} {i j : Nat} {c : Char} (ht : HexCode t (0xd800 + i))
    (hl : HexCode l (0xdc00 + j)) (hi : i < 0x400) (hj : j < 0x400)
    (hc : c.toNat = 0x10000 + i * 0x400 + j) (r : List Char) :
    readCodePoint (t ++ ('\\' :: 'u' :: (l ++ r))) = .ok (c, r) := by
  have hnotlow : isLowSurrogate (0xd800 + i) = false := by
    simp only [isLowSurrogate, Bool.and_eq_false_iff, decide_eq_false_iff_not]
    omega
  have hhigh : isHighSurrogate (0xd800 + i) = true := by
    simp only [isHighSurrogate, Bool.and_eq_true, decide_eq_true_eq]
    omega
  have hlow : isLowSurrogate (0xdc00 + j) = true := by
    simp only [isLowSurrogate, Bool.and_eq_true, decide_eq_true_eq]
    omega
  have hcode : pairCode (0xd800 + i) (0xdc00 + j) = c.toNat := by
    simp only [pairCode, hc]
    omega
  have hpair : Char.ofNat (pairCode (0xd800 + i) (0xdc00 + j)) = c := by
    rw [hcode, Char.ofNat_toNat]
  simp [readCodePoint, readHex_complete ht, readHex_complete hl, readLow, bind, Except.bind,
    hnotlow, hhigh, hlow, hpair, pure, Except.pure]

lemma escaped?_u : escaped? 'u' = none := rfl

lemma readEscape_sound {s r : List Char} {c : Char} (h : readEscape s = .ok (c, r)) :
    ∃ e, s = e ++ r ∧ ∀ t cs, Spells t cs → Spells ('\\' :: (e ++ t)) (c :: cs) := by
  unfold readEscape at h
  split at h
  · simp at h
  · next d s =>
    split at h
    · next he =>
      cases h
      exact ⟨[d], rfl, fun t cs ht => .short (escaped?_eq_some.mp he) ht⟩
    · split at h
      · next hu =>
        subst hu
        rcases readCodePoint_sound h with ⟨t, ht, rfl⟩ | ⟨i, j, t, l, ht, hl, hi, hj, hc, rfl⟩
        · exact ⟨'u' :: t, rfl, fun u cs hu => .code ht hu⟩
        · refine ⟨'u' :: (t ++ ('\\' :: 'u' :: l)), by simp, ?_⟩
          intro u cs hu
          have hs := Spells.pair ht hl hi hj hc hu
          simpa using hs
      · simp at h

lemma skipEscape_sound {s r : List Char} (h : skipEscape s = .ok r) :
    ∃ e, s = e ++ r ∧ ∀ t, Body t → Body ('\\' :: (e ++ t)) := by
  unfold skipEscape at h
  split at h
  · simp at h
  · next d s =>
    split at h
    · next he =>
      cases h
      exact ⟨[d], rfl, fun t ht => .short (escaped?_eq_some.mp he) ht⟩
    · split at h
      · next hu =>
        subst hu
        obtain ⟨⟨n, u⟩, hs, rfl⟩ := map_eq_ok.mp h
        obtain ⟨t, ht, rfl⟩ := readHex_sound hs
        exact ⟨'u' :: t, rfl, fun u hu => .code ht hu⟩
      · simp at h

lemma readString_sound {s r cs : List Char} (h : readString s = .ok (cs, r)) :
    ∃ t, Spells t cs ∧ s = t ++ '"' :: r := by
  fun_induction readString s generalizing cs with
  | case1 => simp at h
  | case2 s =>
    cases h
    exact ⟨[], .nil, rfl⟩
  | case3 => simp at h
  | case4 s d u hu _ ih =>
    obtain ⟨⟨ds, v⟩, hs, h⟩ := map_eq_ok.mp h
    cases h
    obtain ⟨t, ht, rfl⟩ := ih hs
    obtain ⟨e, rfl, he⟩ := readEscape_sound hu
    exact ⟨'\\' :: (e ++ t), he t ds ht, by simp⟩
  | case5 => simp at h
  | case6 c s hq hb hc ih =>
    obtain ⟨⟨ds, v⟩, hs, h⟩ := map_eq_ok.mp h
    cases h
    obtain ⟨t, ht, rfl⟩ := ih hs
    have hp : Plain c := ⟨hq, hb, by simpa [isControl] using hc⟩
    exact ⟨c :: t, .plain hp ht, rfl⟩

lemma skipString_sound {s r : List Char} (h : skipString s = .ok r) :
    ∃ t, Body t ∧ s = t ++ '"' :: r := by
  fun_induction skipString s with
  | case1 => simp at h
  | case2 s =>
    cases h
    exact ⟨[], .nil, rfl⟩
  | case3 => simp at h
  | case4 s u hu _ ih =>
    obtain ⟨t, ht, rfl⟩ := ih h
    obtain ⟨e, rfl, he⟩ := skipEscape_sound hu
    exact ⟨'\\' :: (e ++ t), he t ht, by simp⟩
  | case5 => simp at h
  | case6 c s hq hb hc ih =>
    obtain ⟨t, ht, rfl⟩ := ih h
    have hp : Plain c := ⟨hq, hb, by simpa [isControl] using hc⟩
    exact ⟨c :: t, .plain hp ht, rfl⟩

lemma readString_plain {c : Char} (hc : Plain c) (s : List Char) :
    readString (c :: s) = (readString s).map fun p => (c :: p.1, p.2) := by
  obtain ⟨hq, hb, hn⟩ := hc
  have hctl : isControl c = false := by simpa [isControl] using hn
  rw [readString]
  simp [hq, hb, hctl]

lemma readString_escape {c : Char} {s t : List Char} (h : readEscape s = .ok (c, t)) :
    readString ('\\' :: s) = (readString t).map fun p => (c :: p.1, p.2) := by
  rw [readString, if_neg (by decide), if_pos rfl]
  split
  · next he =>
    rw [h] at he
    cases he
  · next he =>
    rw [h] at he
    cases he
    rfl

lemma skipString_plain {c : Char} (hc : Plain c) (s : List Char) :
    skipString (c :: s) = skipString s := by
  obtain ⟨hq, hb, hn⟩ := hc
  have hctl : isControl c = false := by simpa [isControl] using hn
  rw [skipString]
  simp [hq, hb, hctl]

lemma skipString_escape {s t : List Char} (h : skipEscape s = .ok t) :
    skipString ('\\' :: s) = skipString t := by
  rw [skipString, if_neg (by decide), if_pos rfl]
  split
  · next he =>
    rw [h] at he
    cases he
  · next he =>
    rw [h] at he
    cases he
    rfl

lemma readString_complete {t cs : List Char} (h : Spells t cs) (r : List Char) :
    readString (t ++ '"' :: r) = .ok (cs, r) := by
  induction h with
  | nil => rw [List.nil_append, readString, if_pos rfl]
  | plain hc _ ih => rw [List.cons_append, readString_plain hc, ih, Except.map]
  | @short e c s cs he _ ih =>
    have hr : readEscape (e :: (s ++ '"' :: r)) = .ok (c, s ++ '"' :: r) := by
      rw [readEscape, escaped?_eq_some.mpr he]
    rw [List.cons_append, List.cons_append, readString_escape hr, ih, Except.map]
  | @code c t s cs ht _ ih =>
    have hr : readEscape ('u' :: (t ++ (s ++ '"' :: r))) = .ok (c, s ++ '"' :: r) := by
      rw [readEscape, escaped?_u, if_pos rfl, readCodePoint_code ht]
    rw [List.cons_append, List.cons_append, List.append_assoc, readString_escape hr, ih,
      Except.map]
  | @pair c t l s cs i j ht hl hi hj hc _ ih =>
    have hr : readEscape ('u' :: (t ++ ('\\' :: 'u' :: (l ++ (s ++ '"' :: r))))) =
        .ok (c, s ++ '"' :: r) := by
      rw [readEscape, escaped?_u, if_pos rfl, readCodePoint_pair ht hl hi hj hc]
    simp only [List.cons_append, List.append_assoc]
    rw [readString_escape hr, ih, Except.map]

lemma skipString_complete {t : List Char} (h : Body t) (r : List Char) :
    skipString (t ++ '"' :: r) = .ok r := by
  induction h with
  | nil => rw [List.nil_append, skipString, if_pos rfl]
  | plain hc _ ih => rw [List.cons_append, skipString_plain hc, ih]
  | @short e c s he _ ih =>
    have hr : skipEscape (e :: (s ++ '"' :: r)) = .ok (s ++ '"' :: r) := by
      rw [skipEscape, escaped?_eq_some.mpr he]
    rw [List.cons_append, List.cons_append, skipString_escape hr, ih]
  | @code t s n ht _ ih =>
    have hr : skipEscape ('u' :: (t ++ (s ++ '"' :: r))) = .ok (s ++ '"' :: r) := by
      rw [skipEscape, escaped?_u, if_pos rfl, readHex_complete ht, Except.map]
    rw [List.cons_append, List.cons_append, List.append_assoc, skipString_escape hr, ih]

lemma Spells.body {t cs : List Char} (h : Spells t cs) : Body t := by
  induction h with
  | nil => exact .nil
  | plain hc _ ih => exact .plain hc ih
  | short he _ ih => exact .short he ih
  | code ht _ ih => exact .code ht ih
  | pair ht hl _ _ _ _ ih => exact .code ht (.code hl ih)

lemma hexDigit_digitChar (n : Nat) (hn : n < 16) : HexDigit (Nat.digitChar n) n := by
  have h : ∀ n < 16, hexValue? (Nat.digitChar n) = some n := by decide
  exact hexValue?_eq_some.mp (h n hn)

lemma Spells.escape {s cs : List Char} (h : Spells s cs) (c : Char) :
    Spells (Json.escape c ++ s) (c :: cs) := by
  unfold Json.escape
  -- seven characters have an escape of one letter
  iterate 7
    split
    · next hc => exact .short (by simp [shortEscapes, hc]) h
  split
  · next hc =>
    have hlt : c.toNat < 0x20 := by simpa [isControl] using hc
    have h0 : HexDigit '0' 0 := .digit (by decide) rfl
    have hcode := HexCode.digits h0 h0 (hexDigit_digitChar (c.toNat / 16) (by omega))
      (hexDigit_digitChar (c.toNat % 16) (by omega))
    have hn : ((0 * 16 + 0) * 16 + c.toNat / 16) * 16 + c.toNat % 16 = c.toNat := by omega
    rw [hn] at hcode
    exact .code hcode h
  · next hq hb _ _ _ _ _ hc => exact .plain ⟨hq, hb, by simpa [isControl] using hc⟩ h

lemma spells_written (cs : List Char) : Spells (cs.flatMap Json.escape) cs := by
  induction cs with
  | nil => exact .nil
  | cons c cs ih =>
    rw [List.flatMap_cons]
    exact ih.escape c

end Locator.Json
