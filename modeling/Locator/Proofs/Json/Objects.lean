import Locator.Json.Structure
import Locator.Proofs.Json.Values
import Mathlib.Data.List.Forall2

/-! A text holds at most one list of entries. -/

namespace Locator.Json

structure Entry where
  key : String
  value : List Char
deriving DecidableEq, Repr

def Member.Decodes (m : Member) (e : Entry) : Prop := Spells m.key e.key.toList ∧ m.value = e.value

def Holds (t : List Char) (es : List Entry) : Prop :=
  ∃ w₁ ms c w₂, Blanks w₁ ∧ Contents .object ms c ∧ Blanks w₂ ∧ List.Forall₂ Member.Decodes ms es ∧
    t = w₁ ++ '{' :: (c ++ '}' :: w₂)

lemma Spells.unique {t cs ds : List Char} (h₁ : Spells t cs) (h₂ : Spells t ds) : cs = ds := by
  have h := (readString_complete h₁ []).symm.trans (readString_complete h₂ [])
  cases h
  rfl

lemma Body.unique {t u r s : List Char} (ht : Body t) (hu : Body u)
    (h : t ++ '"' :: r = u ++ '"' :: s) : t = u ∧ r = s := by
  have hr := skipString_complete ht r
  rw [h, skipString_complete hu s] at hr
  cases hr
  exact ⟨List.append_cancel_right h, rfl⟩

lemma Blanks.unique {w₁ w₂ r s : List Char} {c d : Char} (h₁ : Blanks w₁) (h₂ : Blanks w₂)
    (hc : isBlank c = false) (hd : isBlank d = false) (h : w₁ ++ c :: r = w₂ ++ d :: s) :
    c = d ∧ r = s := by
  have hr := skipBlank_complete h₁ hc r
  rw [h, skipBlank_complete h₂ hd s] at hr
  obtain ⟨rfl, rfl⟩ := List.cons.inj hr
  exact ⟨rfl, rfl⟩

lemma member_unique {k₁ l₁ v₁ r₁ k₂ l₂ v₂ r₂ : List Char} (hl₁ : Lead .object k₁ l₁)
    (hl₂ : Lead .object k₂ l₂) (hv₁ : Value v₁) (hv₂ : Value v₂) (hr₁ : Stops r₁) (hr₂ : Stops r₂)
    (h : l₁ ++ (v₁ ++ r₁) = l₂ ++ (v₂ ++ r₂)) : k₁ = k₂ ∧ v₁ = v₂ ∧ r₁ = r₂ := by
  cases hl₁ with
  | member ha₁ hk₁ hb₁ hc₁ =>
    cases hl₂ with
    | member ha₂ hk₂ hb₂ hc₂ =>
      simp only [List.append_assoc, List.cons_append] at h
      obtain ⟨-, h⟩ := ha₁.unique ha₂ rfl rfl h
      obtain ⟨hk, h⟩ := hk₁.unique hk₂ h
      obtain ⟨-, h⟩ := hb₁.unique hb₂ rfl rfl h
      have hr := skipValue_complete hc₁ hv₁ hr₁
      rw [h, skipValue_complete hc₂ hv₂ hr₂] at hr
      cases hr
      refine ⟨hk, ?_, rfl⟩
      obtain ⟨c₁, t₁, rfl, hn₁, -⟩ := hv₁.head
      obtain ⟨c₂, t₂, rfl, hn₂, -⟩ := hv₂.head
      obtain ⟨rfl, ht⟩ := hc₁.unique hc₂ hn₁ hn₂ h
      rw [List.append_cancel_right ht]

lemma Items.unique {ms₁ ms₂ : List Member} {t₁ t₂ r₁ r₂ : List Char} (h₁ : Items .object ms₁ t₁)
    (h₂ : Items .object ms₂ t₂) (h : t₁ ++ '}' :: r₁ = t₂ ++ '}' :: r₂) : ms₁ = ms₂ := by
  induction ms₁ generalizing ms₂ t₁ t₂ with
  | nil => cases h₁
  | cons m ms ih =>
    obtain ⟨k₁, l₁, v₁, _, u₁, hl₁, hv₁, hu₁, hms, rfl⟩ := h₁.uncons
    obtain ⟨rfl, rfl⟩ := List.cons.inj hms
    obtain ⟨k₂, l₂, v₂, ms', u₂, hl₂, hv₂, hu₂, rfl, rfl⟩ := h₂.uncons
    simp only [List.append_assoc] at h
    obtain ⟨rfl, rfl, hu⟩ := member_unique hl₁ hl₂ hv₁ hv₂ (hu₁.stops r₁) (hu₂.stops r₂) h
    congr 1
    -- a comma and a closing bracket cannot stand at the same place
    cases hu₁ with
    | none hw₁ =>
      cases hu₂ with
      | none => rfl
      | more hw₂ _ =>
        rw [List.append_assoc] at hu
        exact absurd (hw₁.unique hw₂ rfl rfl hu).1 (by decide)
    | more hw₁ hi₁ =>
      rw [List.append_assoc] at hu
      cases hu₂ with
      | none hw₂ => exact absurd (hw₁.unique hw₂ rfl rfl hu).1 (by decide)
      | more hw₂ hi₂ =>
        rw [List.append_assoc] at hu
        exact ih hi₁ hi₂ (hw₁.unique hw₂ rfl rfl hu).2

lemma Contents.unique {ms₁ ms₂ : List Member} {t₁ t₂ r₁ r₂ : List Char}
    (h₁ : Contents .object ms₁ t₁) (h₂ : Contents .object ms₂ t₂)
    (h : t₁ ++ '}' :: r₁ = t₂ ++ '}' :: r₂) : ms₁ = ms₂ := by
  have hne {w ms t r s} (hw : Blanks w) (hi : Items .object ms t) :
      w ++ '}' :: r ≠ t ++ '}' :: s := by
    intro h
    obtain ⟨w', c, u, hw', rfl, hc, hne⟩ := hi.head
    rw [List.append_assoc] at h
    exact hne (hw.unique hw' rfl hc h).1.symm
  cases h₁ with
  | empty hw₁ =>
    cases h₂ with
    | empty => rfl
    | filled hi₂ => exact absurd h (hne hw₁ hi₂)
  | filled hi₁ =>
    cases h₂ with
    | empty hw₂ => exact absurd h.symm (hne hw₂ hi₁)
    | filled hi₂ => exact hi₁.unique hi₂ h

lemma decodes_unique : Relator.RightUnique Member.Decodes := by
  intro m e₁ e₂ h₁ h₂
  obtain ⟨hk₁, hv₁⟩ := h₁
  obtain ⟨hk₂, hv₂⟩ := h₂
  have hk : e₁.key = e₂.key := String.toList_injective (hk₁.unique hk₂)
  cases e₁
  cases e₂
  exact congrArg₂ Entry.mk hk (hv₁.symm.trans hv₂)

lemma Holds.unique {t : List Char} {es₁ es₂ : List Entry} (h₁ : Holds t es₁) (h₂ : Holds t es₂) :
    es₁ = es₂ := by
  obtain ⟨w₁, ms₁, c₁, w₁', hw₁, hc₁, -, hd₁, rfl⟩ := h₁
  obtain ⟨w₂, ms₂, c₂, w₂', hw₂, hc₂, -, hd₂, h⟩ := h₂
  obtain ⟨-, hc⟩ := hw₁.unique hw₂ rfl rfl h
  obtain rfl := hc₁.unique hc₂ hc
  exact decodes_unique.forall₂ hd₁ hd₂

def Quotes (v : List Char) (text : String) : Prop :=
  ∃ b, Spells b text.toList ∧ v = '"' :: (b ++ ['"'])

inductive NullOrQuotes : List Char → Option String → Prop
  | null : NullOrQuotes ['n', 'u', 'l', 'l'] none
  | text {v : List Char} {text : String} : Quotes v text → NullOrQuotes v (some text)

lemma Quotes.value {v : List Char} {text : String} (h : Quotes v text) : Value v := by
  obtain ⟨b, hb, rfl⟩ := h
  exact .scalar (.string hb.body)

lemma NullOrQuotes.value {v : List Char} {text? : Option String} (h : NullOrQuotes v text?) :
    Value v := by
  cases h with
  | null => exact .scalar .null
  | text hv => exact hv.value

lemma readText_sound {s r : List Char} {text : String} (h : readText s = .ok (text, r)) :
    ∃ w v, Blanks w ∧ Quotes v text ∧ s = w ++ (v ++ r) := by
  obtain ⟨w, hw, hs⟩ := skipBlank_sound s
  rw [readText] at h
  split at h
  · simp at h
  · next c t hc =>
    split at h
    · next heq =>
      obtain ⟨⟨cs, u⟩, hcs, hp⟩ := map_eq_ok.mp h
      cases hp
      obtain ⟨b, hb, rfl⟩ := readString_sound hcs
      refine ⟨w, _, hw, ⟨b, ?_, rfl⟩, ?_⟩
      · rwa [String.toList_ofList]
      · rw [hs, hc, heq]
        simp
    · simp at h

lemma readText_complete {w v : List Char} {text : String} (hw : Blanks w) (hv : Quotes v text)
    (r : List Char) : readText (w ++ (v ++ r)) = .ok (text, r) := by
  obtain ⟨b, hb, rfl⟩ := hv
  have hs : skipBlank (w ++ '"' :: (b ++ '"' :: r)) = '"' :: (b ++ '"' :: r) :=
    skipBlank_complete hw rfl _
  simp [readText, hs, readString_complete hb, Except.map]

lemma readDocument_eq_ok {α : Type} {read : List Char → Except Fault (α × List Char)}
    {text : String} {a : α} :
    readDocument read text = .ok a ↔ ∃ r, read text.toList = .ok (a, r) ∧ Blanks r := by
  constructor
  · intro h
    obtain ⟨⟨a', r⟩, hr, h⟩ := bind_eq_ok.mp h
    dsimp only at h
    split at h
    · next hblank =>
      cases h
      exact ⟨r, hr, skipBlank_eq_nil.mp hblank⟩
    · simp at h
  · rintro ⟨r, hr, hblank⟩
    simp only [readDocument, hr, bind, Except.bind, skipBlank_eq_nil.mpr hblank]
    rfl

lemma readText?_sound {s r : List Char} {text? : Option String}
    (h : readText? s = .ok (text?, r)) :
    ∃ w v, Blanks w ∧ NullOrQuotes v text? ∧ s = w ++ (v ++ r) := by
  rw [readText?] at h
  split at h
  · next t ht =>
    obtain ⟨w, hw, hs⟩ := skipBlank_sound s
    obtain ⟨u, hu, hp⟩ := map_eq_ok.mp h
    cases hp
    refine ⟨w, _, hw, .null, ?_⟩
    rw [hs, ht, readLetters_sound hu]
    rfl
  · obtain ⟨⟨text, u⟩, hu, hp⟩ := map_eq_ok.mp h
    cases hp
    obtain ⟨w, v, hw, hv, hs⟩ := readText_sound hu
    exact ⟨w, v, hw, .text hv, hs⟩

lemma readText?_complete {w v : List Char} {text? : Option String} (hw : Blanks w)
    (hv : NullOrQuotes v text?) (r : List Char) : readText? (w ++ (v ++ r)) = .ok (text?, r) := by
  cases hv with
  | null =>
    have hs : skipBlank (w ++ (['n', 'u', 'l', 'l'] ++ r)) = 'n' :: (['u', 'l', 'l'] ++ r) :=
      skipBlank_complete hw rfl _
    simp only [readText?, hs, readLetters_complete, Except.map]
  | text hv =>
    have ht := readText_complete hw hv r
    obtain ⟨b, hb, rfl⟩ := hv
    rw [readText?]
    split
    · next t hs =>
      rw [List.cons_append, skipBlank_complete hw rfl] at hs
      cases hs
    · rw [ht, Except.map]

lemma readKey_sound {s r : List Char} {key? : Option String} (h : readKey s = .ok (key?, r)) :
    ∃ key k, key? = some key ∧ Spells k key.toList ∧ s = '"' :: (k ++ '"' :: r) := by
  unfold readKey at h
  split at h
  · simp at h
  · split at h
    · next heq =>
      obtain ⟨⟨cs, u⟩, hcs, hp⟩ := map_eq_ok.mp h
      cases hp
      obtain ⟨k, hk, rfl⟩ := readString_sound hcs
      refine ⟨_, k, rfl, ?_, by rw [heq]⟩
      rwa [String.toList_ofList]
    · split at h <;> simp at h

lemma readKey_complete {k : List Char} {key : String} (hk : Spells k key.toList) (r : List Char) :
    readKey ('"' :: (k ++ '"' :: r)) = .ok (some key, r) := by
  simp [readKey, readString_complete hk, Except.map]

def Ahead : Bool → List Member → List Char → Prop
  | true => Contents .object
  | false => Rest .object

lemma nextKey_none {first : Bool} {s r : List Char} (h : nextKey first s = .ok (none, r)) :
    ∃ w t, Blanks w ∧ r = '}' :: t ∧ s = w ++ r := by
  obtain ⟨w, hw, hs⟩ := skipBlank_sound s
  rw [nextKey] at h
  split at h
  · simp at h
  · next c t hc =>
    split at h
    · next heq =>
      cases h
      exact ⟨w, t, hw, by rw [heq], by rw [hs, hc]⟩
    split at h
    · obtain ⟨key, k, hkey, -⟩ := readKey_sound h
      cases hkey
    split at h
    · obtain ⟨key, k, hkey, -⟩ := readKey_sound h
      cases hkey
    · simp at h

lemma nextKey_some {first : Bool} {s r : List Char} {key : String}
    (h : nextKey first s = .ok (some key, r)) :
    ∃ sep w k, Blanks w ∧ Spells k key.toList ∧ s = sep ++ (w ++ '"' :: (k ++ '"' :: r)) ∧
      ∀ ms t, Items .object ms t → Ahead first ms (sep ++ t) := by
  obtain ⟨w, hw, hs⟩ := skipBlank_sound s
  rw [nextKey] at h
  split at h
  · simp at h
  · next c t hc =>
    split at h
    · simp at h
    split at h
    · next hfirst =>
      obtain ⟨_, k, hkey, hk, ht⟩ := readKey_sound h
      cases hkey
      refine ⟨[], w, k, hw, hk, by rw [hs, hc, ht]; rfl, ?_⟩
      intro ms i hi
      rw [hfirst]
      exact .filled hi
    split at h
    · next hfirst heq =>
      obtain ⟨w', hw', ht'⟩ := skipBlank_sound t
      obtain ⟨_, k, hkey, hk, ht⟩ := readKey_sound h
      cases hkey
      refine ⟨w ++ [','], w', k, hw', hk, ?_, ?_⟩
      · rw [hs, hc, heq, ← ht, ← ht']
        simp
      · intro ms i hi
        rw [Bool.not_eq_true] at hfirst
        rw [hfirst, List.append_assoc]
        exact .more hw hi
    · simp at h

lemma Ahead.nextKey_nil {first : Bool} {t : List Char} (h : Ahead first [] t) (r : List Char) :
    nextKey first (t ++ '}' :: r) = .ok (none, '}' :: r) := by
  have ht : Blanks t := by
    cases first with
    | true =>
      cases h with
      | empty hw => exact hw
      | filled hi => cases hi
    | false =>
      cases h with
      | none hw => exact hw
      | more _ hi => cases hi
  simp [nextKey, skipBlank_complete ht (c := '}') rfl]

lemma Ahead.items {first : Bool} {m : Member} {ms : List Member} {t : List Char}
    (h : Ahead first (m :: ms) t) :
    ∃ sep i, Items .object (m :: ms) i ∧ t = sep ++ i ∧ ∀ {w k key}, Blanks w →
      Spells k key.toList → ∀ r,
      nextKey first (sep ++ (w ++ '"' :: (k ++ '"' :: r))) = .ok (some key, r) := by
  cases first with
  | true =>
    cases h with
    | filled hi =>
      refine ⟨[], t, hi, rfl, ?_⟩
      intro w k key hw hk r
      simp [nextKey, skipBlank_complete hw (c := '"') rfl, readKey_complete hk]
  | false =>
    cases h with
    | @more w i _ hw hi =>
      refine ⟨w ++ [','], i, hi, by simp, ?_⟩
      intro w' k key hw' hk r
      simp [nextKey, skipBlank_complete hw (c := ',') rfl, skipBlank_complete hw' (c := '"') rfl,
        readKey_complete hk]

lemma Ahead.nextKey_cons {first : Bool} {m : Member} {ms : List Member} {t : List Char} {e : Entry}
    (h : Ahead first (m :: ms) t) (hm : m.Decodes e) :
    ∃ w₁ w₂ u, Blanks w₁ ∧ Blanks w₂ ∧ Value e.value ∧ Rest .object ms u ∧ ∀ r,
      nextKey first (t ++ r) = .ok (some e.key, w₁ ++ ':' :: (w₂ ++ (e.value ++ (u ++ r)))) := by
  obtain ⟨hk, hv⟩ := hm
  obtain ⟨sep, i, hi, rfl, hnext⟩ := h.items
  obtain ⟨k, l, v, ms', u, hl, hvalue, hu, hms, rfl⟩ := hi.uncons
  cases hms
  cases hl with
  | member h₁ _ h₂ h₃ =>
    subst hv
    refine ⟨_, _, u, h₂, h₃, hvalue, hu, ?_⟩
    intro r
    have hn := hnext h₁ hk
    simpa using hn _

end Locator.Json
