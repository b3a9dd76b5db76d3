import Locator.Proofs.Json.Objects

namespace Locator.Json

def HoldsList (t : List Char) (vs : List (List Char)) : Prop :=
  ∃ w₁ c w₂, Blanks w₁ ∧ Contents .list (vs.map (Member.mk [])) c ∧ Blanks w₂ ∧
    t = w₁ ++ '[' :: (c ++ ']' :: w₂)

variable {v w t : List Char} {ms : List Member}

lemma Contents.blanks {b : Bracket} (h : Contents b [] t) : Blanks t := by
  cases h with
  | empty hw => exact hw
  | filled hi => cases hi

lemma Rest.blanks {b : Bracket} (h : Rest b [] t) : Blanks t := by
  cases h with
  | none hw => exact hw
  | more _ hi => cases hi

lemma Items.element (h : Items .list (⟨[], v⟩ :: ms) t) :
    ∃ w u, Blanks w ∧ Value v ∧ Rest .list ms u ∧ t = w ++ (v ++ u) := by
  obtain ⟨k, l, v', ms', u, hl, hv, hu, hms, rfl⟩ := h.uncons
  cases hms
  cases hl with
  | element hw => exact ⟨_, u, hw, hv, hu, rfl⟩

lemma nextElement_closing (first : Bool) (hw : Blanks w) (r : List Char) :
    nextElement first (w ++ ']' :: r) = .ok (false, ']' :: r) := by
  rw [nextElement, skipBlank_complete hw rfl]
  rfl

lemma Contents.nextElement_nil (h : Contents .list [] t) (r : List Char) :
    nextElement true (t ++ ']' :: r) = .ok (false, ']' :: r) :=
  nextElement_closing true h.blanks r

lemma Rest.nextElement_nil (h : Rest .list [] t) (r : List Char) :
    nextElement false (t ++ ']' :: r) = .ok (false, ']' :: r) :=
  nextElement_closing false h.blanks r

lemma Contents.nextElement_cons (h : Contents .list (⟨[], v⟩ :: ms) t) :
    ∃ u, Value v ∧ Rest .list ms u ∧
      ∀ r, nextElement true (t ++ r) = .ok (true, v ++ (u ++ r)) := by
  cases h with
  | filled hi =>
    obtain ⟨w, u, hw, hv, hu, rfl⟩ := hi.element
    refine ⟨u, hv, hu, ?_⟩
    intro r
    obtain ⟨c, s, rfl, hc, hclosing⟩ := hv.head
    have hne : c ≠ ']' := hclosing .list
    simp [nextElement, skipBlank_complete hw hc, hne]

lemma Rest.nextElement_cons (h : Rest .list (⟨[], v⟩ :: ms) t) :
    ∃ u, Value v ∧ Rest .list ms u ∧
      ∀ r, nextElement false (t ++ r) = .ok (true, v ++ (u ++ r)) := by
  cases h with
  | more hw hi =>
    obtain ⟨w', u, hw', hv, hu, rfl⟩ := hi.element
    refine ⟨u, hv, hu, ?_⟩
    intro r
    obtain ⟨c, s, rfl, hc, hclosing⟩ := hv.head
    have hne : c ≠ ']' := hclosing .list
    simp [nextElement, skipBlank_complete hw (c := ',') rfl, skipBlank_complete hw' hc, hne]

lemma Rest.endList_nil (h : Rest .list [] t) (r : List Char) :
    endList (t ++ ']' :: r) = .ok r := by
  rw [endList, skipBlank_complete h.blanks rfl]
  rfl

lemma Rest.endList_cons {m : Member} (h : Rest .list (m :: ms) t) (r : List Char) :
    ∃ e, endList (t ++ r) = .error e := by
  cases h with
  | more hw _ =>
    simp only [endList, List.append_assoc, List.cons_append, skipBlank_complete hw (c := ',') rfl]
    split
    · next hclosing => cases hclosing
    · split
      · split <;> exact ⟨_, rfl⟩
      · exact ⟨_, rfl⟩

lemma Value.scalar_of_head {c : Char} (h : Value (c :: t)) (hc : ∀ b : Bracket, b.opening ≠ c) :
    Scalar (c :: t) := by
  generalize hv : c :: t = v at h
  cases h with
  | scalar hs => exact hs
  | empty b => exact absurd (List.cons.inj hv).1.symm (hc b)
  | filled b => exact absurd (List.cons.inj hv).1.symm (hc b)

lemma Magnitude.isDigit_head {c : Char} (h : Magnitude (c :: t)) : c.isDigit = true := by
  obtain ⟨d, r, hd, hr⟩ := h.head
  rw [(List.cons.inj hr).1]
  exact isDigit_iff.mpr hd

lemma Value.of_quote (h : Value ('"' :: t)) : ∃ b, Body b ∧ t = b ++ ['"'] := by
  cases h.scalar_of_head (by rintro ⟨⟩ <;> decide) with
  | string hb => exact ⟨_, hb, rfl⟩
  | positive hm => exact absurd hm.isDigit_head (by decide)

lemma Value.of_letter (h : Value ('n' :: t)) : t = ['u', 'l', 'l'] := by
  cases h.scalar_of_head (by rintro ⟨⟩ <;> decide) with
  | null => rfl
  | positive hm => exact absurd hm.isDigit_head (by decide)

lemma Value.eq_of_nullOrQuotes {v' r : List Char} {text? : Option String} (hv : Value v)
    (hw : Blanks w) (hv' : NullOrQuotes v' text?) (h : v ++ r = w ++ (v' ++ t)) :
    v = v' ∧ r = t := by
  obtain ⟨c, s, rfl, hc, -⟩ := id hv.head
  cases hv' with
  | null =>
    obtain ⟨rfl, hs⟩ := Blanks.nil.unique hw hc rfl h
    obtain rfl := hv.of_letter
    exact ⟨rfl, List.append_cancel_left hs⟩
  | text hq =>
    obtain ⟨b, hb, rfl⟩ := hq
    obtain ⟨rfl, hs⟩ := Blanks.nil.unique hw hc rfl h
    obtain ⟨b', hb', rfl⟩ := hv.of_quote
    have hbody : b' ++ '"' :: r = b ++ '"' :: t := by simpa using hs
    obtain ⟨rfl, rfl⟩ := hb'.unique hb.body hbody
    exact ⟨rfl, rfl⟩

lemma quotes_of_readText {r : List Char} {text : String} (hv : Value v)
    (h : readText (v ++ r) = .ok (text, t)) : Quotes v text ∧ t = r := by
  obtain ⟨w, v', hw, hq, hs⟩ := readText_sound h
  obtain ⟨rfl, rfl⟩ := hv.eq_of_nullOrQuotes hw (.text hq) hs
  exact ⟨hq, rfl⟩

lemma nullOrQuotes_of_readText? {r : List Char} {text? : Option String} (hv : Value v)
    (h : readText? (v ++ r) = .ok (text?, t)) : NullOrQuotes v text? ∧ t = r := by
  obtain ⟨w, v', hw, hq, hs⟩ := readText?_sound h
  obtain ⟨rfl, rfl⟩ := hv.eq_of_nullOrQuotes hw hq hs
  exact ⟨hq, rfl⟩

end Locator.Json
