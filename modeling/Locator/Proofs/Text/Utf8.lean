import Locator.Text.Utf8
import Mathlib.Data.List.Basic

namespace Locator.Utf8

def Continues : Nat → UInt8 → UInt8 → Bytes → Prop
  | 0, _, _, tail => tail = []
  | n + 1, least, greatest, tail =>
    ∃ b rest, tail = b :: rest ∧ (least ≤ b ∧ b ≤ greatest) ∧ Continues n 0x80 0xbf rest

def accumulate (code : Nat) (tail : Bytes) : Nat :=
  tail.foldl (fun code b => code * 64 + b.toNat % 64) code

lemma follow_eq_char {n code : Nat} {seen rest left : Bytes} {least greatest : UInt8} {c : Char} :
    follow code seen n least greatest rest = (.char c, left) ↔
      ∃ tail, rest = tail ++ left ∧ Continues n least greatest tail ∧
        c = Char.ofNat (accumulate code tail) := by
  induction n generalizing code seen rest least greatest with
  | zero =>
    constructor
    · intro h
      cases h
      exact ⟨[], rfl, rfl, rfl⟩
    · rintro ⟨tail, rfl, rfl, rfl⟩
      rfl
  | succ n ih =>
    constructor
    · intro h
      cases rest with
      | nil => cases h
      | cons b rest =>
        rw [follow] at h
        split at h
        · next hb =>
          obtain ⟨tail, rfl, htail, rfl⟩ := ih.mp h
          exact ⟨b :: tail, rfl, ⟨b, tail, rfl, hb, htail⟩, rfl⟩
        · cases h
    · rintro ⟨tail, rfl, ⟨b, tail, rfl, hb, htail⟩, rfl⟩
      rw [List.cons_append, follow, if_pos hb]
      exact ih.mpr ⟨tail, rfl, htail, rfl⟩

def Makes (b : UInt8) (tail : Bytes) (c : Char) : Prop :=
  ∃ l, lead? b = some l ∧ Continues l.following l.least l.greatest tail ∧
    c = Char.ofNat (accumulate l.bits tail)

lemma chunk_eq_char {b : UInt8} {rest left : Bytes} {c : Char} :
    chunk b rest = (.char c, left) ↔ ∃ tail, rest = tail ++ left ∧ Makes b tail c := by
  rw [chunk]
  cases hl : lead? b with
  | none => simp [Makes, hl]
  | some l =>
    simp only [Makes, hl, Option.some.injEq, exists_eq_left']
    exact follow_eq_char

/-- The bytes of the code `n`, by its digits in base 64. Each form is for the codes that no shorter
one has. -/
inductive Form (n : Nat) : Bytes → Prop
  | one {a : UInt8} : n < 0x80 → a.toNat = n → Form n [a]
  | two {a b : UInt8} : 0x80 ≤ n → n < 0x800 →
      a.toNat = 0xc0 + n / 64 → b.toNat = 0x80 + n % 64 → Form n [a, b]
  | three {a b c : UInt8} : 0x800 ≤ n → n < 0x10000 →
      a.toNat = 0xe0 + n / 4096 → b.toNat = 0x80 + n / 64 % 64 → c.toNat = 0x80 + n % 64 →
      Form n [a, b, c]
  | four {a b c d : UInt8} : 0x10000 ≤ n → n < 0x110000 →
      a.toNat = 0xf0 + n / 262144 → b.toNat = 0x80 + n / 4096 % 64 →
      c.toNat = 0x80 + n / 64 % 64 → d.toNat = 0x80 + n % 64 → Form n [a, b, c, d]

lemma Form.unique {n : Nat} {l r : Bytes} (hl : Form n l) (hr : Form n r) : l = r := by
  cases hl <;> cases hr <;>
    simp only [List.cons.injEq, ← UInt8.toNat_inj, and_true, reduceCtorEq, and_false] <;> omega

lemma form_utf8EncodeChar (c : Char) : Form c.toNat (String.utf8EncodeChar c) := by
  have hlt : c.toNat < 0x110000 := by
    rcases c.valid with h | h
    · exact Nat.lt_trans h (by decide)
    · exact h.2
  simp only [String.utf8EncodeChar, Char.toNat_val]
  split
  · exact .one (by omega) (by rw [UInt8.toNat_ofNat']; omega)
  split
  · exact .two (by omega) (by omega) (by rw [UInt8.toNat_ofNat']; omega)
      (by rw [UInt8.toNat_ofNat']; omega)
  split
  · exact .three (by omega) (by omega) (by rw [UInt8.toNat_ofNat']; omega)
      (by rw [UInt8.toNat_ofNat']; omega) (by rw [UInt8.toNat_ofNat']; omega)
  · exact .four (by omega) (by omega) (by rw [UInt8.toNat_ofNat']; omega)
      (by rw [UInt8.toNat_ofNat']; omega) (by rw [UInt8.toNat_ofNat']; omega)
      (by rw [UInt8.toNat_ofNat']; omega)

lemma toNat_ofNat {n : Nat} (h : n.isValidChar) : (Char.ofNat n).toNat = n := by
  rw [Char.ofNat, dif_pos h]
  rfl

lemma between_ite {p q : Prop} [Decidable p] [Decidable q] {l l' g g' b : UInt8} :
    ((if p then l else l') ≤ b ∧ b ≤ if q then g else g') ↔
      ((p → l.toNat ≤ b.toNat) ∧ (¬p → l'.toNat ≤ b.toNat)) ∧
        (q → b.toNat ≤ g.toNat) ∧ (¬q → b.toNat ≤ g'.toNat) := by
  simp only [← UInt8.le_iff_toNat_le]
  split <;> split <;> simp [*]

lemma Makes.form {b : UInt8} {tail : Bytes} {c : Char} (h : Makes b tail c) :
    Form c.toNat (b :: tail) := by
  obtain ⟨l, hl, htail, rfl⟩ := h
  simp only [lead?, UInt8.lt_iff_toNat_lt, UInt8.reduceToNat] at hl
  -- the first byte tells the form; the bounds on the second one leave out the codes that a shorter
  -- form has, the surrogates, and what lies beyond the last code
  split at hl
  · obtain rfl := Option.some.inj hl
    cases htail
    rw [toNat_ofNat (.inl (by change b.toNat < _; omega))]
    exact .one (by assumption) rfl
  split at hl
  · cases hl
  split at hl
  · obtain rfl := Option.some.inj hl
    obtain ⟨x, _, rfl, hx, rfl⟩ := htail
    simp only [UInt8.le_iff_toNat_le, UInt8.reduceToNat] at hx
    simp only [accumulate, List.foldl_cons, List.foldl_nil]
    rw [toNat_ofNat (.inl (by omega))]
    exact .two (by omega) (by omega) (by omega) (by omega)
  split at hl
  · obtain rfl := Option.some.inj hl
    obtain ⟨x, _, rfl, hx, y, _, rfl, hy, rfl⟩ := htail
    rw [between_ite] at hx
    simp only [UInt8.le_iff_toNat_le, ← UInt8.toNat_inj, UInt8.reduceToNat] at hx hy
    simp only [accumulate, List.foldl_cons, List.foldl_nil]
    rw [toNat_ofNat (by unfold Nat.isValidChar; omega)]
    exact .three (by omega) (by omega) (by omega) (by omega) (by omega)
  split at hl
  · obtain rfl := Option.some.inj hl
    obtain ⟨x, _, rfl, hx, y, _, rfl, hy, z, _, rfl, hz, rfl⟩ := htail
    rw [between_ite] at hx
    simp only [UInt8.le_iff_toNat_le, ← UInt8.toNat_inj, UInt8.reduceToNat] at hx hy hz
    simp only [accumulate, List.foldl_cons, List.foldl_nil]
    rw [toNat_ofNat (.inr (by omega))]
    exact .four (by omega) (by omega) (by omega) (by omega) (by omega) (by omega)
  · cases hl

lemma Form.makes {n : Nat} {b : UInt8} {tail : Bytes} (h : Form n (b :: tail))
    (hvalid : n.isValidChar) : Makes b tail (Char.ofNat n) := by
  unfold Nat.isValidChar at hvalid
  simp only [Makes, lead?, UInt8.lt_iff_toNat_lt, UInt8.reduceToNat]
  cases h with
  | one hn hb =>
    rw [if_pos (by omega)]
    exact ⟨_, rfl, rfl, by rw [← hb]; rfl⟩
  | @two _ x hn hn' hb hx =>
    rw [if_neg (by omega), if_neg (by omega), if_pos (by omega)]
    refine ⟨_, rfl, ⟨x, [], rfl, ?_, rfl⟩, ?_⟩
    · simp only [UInt8.le_iff_toNat_le, UInt8.reduceToNat]
      omega
    · simp only [accumulate, List.foldl_cons, List.foldl_nil]
      congr 1
      omega
  | @three _ x y hn hn' hb hx hy =>
    rw [if_neg (by omega), if_neg (by omega), if_neg (by omega), if_pos (by omega)]
    refine ⟨_, rfl, ⟨x, [y], rfl, ?_, ⟨y, [], rfl, ?_, rfl⟩⟩, ?_⟩
    · simp only [between_ite, ← UInt8.toNat_inj, UInt8.reduceToNat]
      omega
    · simp only [UInt8.le_iff_toNat_le, UInt8.reduceToNat]
      omega
    · simp only [accumulate, List.foldl_cons, List.foldl_nil]
      congr 1
      omega
  | @four _ x y z hn hn' hb hx hy hz =>
    rw [if_neg (by omega), if_neg (by omega), if_neg (by omega), if_neg (by omega),
      if_pos (by omega)]
    refine ⟨_, rfl, ⟨x, [y, z], rfl, ?_, ⟨y, [z], rfl, ?_, ⟨z, [], rfl, ?_, rfl⟩⟩⟩, ?_⟩
    · simp only [between_ite, ← UInt8.toNat_inj, UInt8.reduceToNat]
      omega
    · simp only [UInt8.le_iff_toNat_le, UInt8.reduceToNat]
      omega
    · simp only [UInt8.le_iff_toNat_le, UInt8.reduceToNat]
      omega
    · simp only [accumulate, List.foldl_cons, List.foldl_nil]
      congr 1
      omega

lemma makes_iff {b : UInt8} {tail : Bytes} {c : Char} :
    Makes b tail c ↔ String.utf8EncodeChar c = b :: tail := by
  have hform := form_utf8EncodeChar c
  constructor
  · intro h
    exact hform.unique h.form
  · intro h
    rw [h] at hform
    rw [← Char.ofNat_toNat c]
    exact hform.makes c.valid

lemma chunks_encode (s : String) : chunks (encode s) = s.toList.map .char := by
  rw [encode]
  induction s.toList with
  | nil => rw [List.flatMap_nil, chunks, List.map_nil]
  | cons c cs ih =>
    obtain ⟨b, tail, hc⟩ := List.exists_cons_of_ne_nil (String.utf8EncodeChar_ne_nil (c := c))
    have hchunk : chunk b (tail ++ cs.flatMap String.utf8EncodeChar) = (.char c, _) :=
      chunk_eq_char.mpr ⟨tail, rfl, makes_iff.mpr hc⟩
    rw [List.flatMap_cons, hc, List.cons_append, chunks, hchunk, List.map_cons, ih]

lemma eq_encode_of_chunks {bs : Bytes} {cs : List Char} (h : chunks bs = cs.map .char) :
    bs = encode (.ofList cs) := by
  rw [encode, String.toList_ofList]
  induction bs using chunks.induct generalizing cs with
  | case1 =>
    rw [chunks] at h
    rw [List.map_eq_nil_iff.mp h.symm, List.flatMap_nil]
  | case2 b rest ih =>
    rw [chunks] at h
    cases cs with
    | nil => cases h
    | cons c cs =>
      obtain ⟨hfirst, hrest⟩ := List.cons.inj h
      obtain ⟨tail, hsplit, hmakes⟩ := chunk_eq_char.mp (Prod.ext hfirst rfl)
      rw [List.flatMap_cons, ← ih hrest, makes_iff.mp hmakes, List.cons_append, ← hsplit]

lemma encode_append (s t : String) : encode (s ++ t) = encode s ++ encode t := by
  rw [encode, String.toList_append, List.flatMap_append]
  rfl

lemma mapM_char? {l : List Chunk} {cs : List Char} :
    l.mapM Chunk.char? = some cs ↔ l = cs.map .char := by
  induction l generalizing cs with
  | nil => cases cs <;> simp
  | cons x l ih =>
    rw [List.mapM_cons]
    cases x with
    | char c =>
      cases cs with
      | nil => simp [Chunk.char?, Option.bind_eq_some_iff]
      | cons d cs =>
        simp only [Chunk.char?, Option.bind_eq_bind, Option.bind_some, Option.bind_eq_some_iff, ih,
          Option.pure_def, Option.some.injEq, List.cons.injEq, List.map_cons, Chunk.char.injEq]
        constructor
        · rintro ⟨_, rfl, rfl, rfl⟩
          exact ⟨rfl, rfl⟩
        · rintro ⟨rfl, rfl⟩
          exact ⟨cs, rfl, rfl, rfl⟩
    | stray bytes => cases cs <;> simp [Chunk.char?]

lemma decode?_eq_some {bs : Bytes} {s : String} : decode? bs = some s ↔ bs = encode s := by
  rw [decode?, Option.map_eq_some_iff]
  constructor
  · rintro ⟨cs, hcs, rfl⟩
    exact eq_encode_of_chunks (mapM_char?.mp hcs)
  · rintro rfl
    exact ⟨s.toList, mapM_char?.mpr (chunks_encode s), String.ofList_toList⟩

lemma encode_injective : Function.Injective encode := by
  intro s t h
  exact Option.some.inj ((decode?_eq_some.mpr h).symm.trans (decode?_eq_some.mpr rfl)).symm

lemma display_encode (s : String) : display (encode s) = s := by
  rw [display, chunks_encode, List.map_map]
  exact (congrArg String.ofList (List.map_id _)).trans String.ofList_toList

lemma encode_display {bs : Bytes} : encode (display bs) = bs ↔ (decode? bs).isSome := by
  rw [Option.isSome_iff_exists]
  constructor
  · intro h
    exact ⟨display bs, decode?_eq_some.mpr h.symm⟩
  · rintro ⟨s, hs⟩
    rw [decode?_eq_some.mp hs, display_encode]

end Locator.Utf8
