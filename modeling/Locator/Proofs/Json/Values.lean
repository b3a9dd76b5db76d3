import Locator.Proofs.Json.Strings

/-! `skipValue` passes over exactly one value; `Owed` is what the open brackets still ask for. -/

namespace Locator.Json

lemma Magnitude.head {t : List Char} (h : Magnitude t) : ∃ d r, Digit d ∧ t = d :: r := by
  obtain ⟨hi, hf, he⟩ := h
  cases hi with
  | zero => exact ⟨'0', _, ⟨by decide, by decide⟩, rfl⟩
  | digits hd => exact ⟨_, _, hd, rfl⟩

lemma Digit.ne {d c : Char} (hd : Digit d) (hc : c.isDigit = false) : d ≠ c := by
  rintro rfl
  rw [isDigit_iff.mpr hd] at hc
  cases hc

lemma skipScalar_sound {c : Char} {r t : List Char} (h : skipScalar c r = .ok t) :
    ∃ v, Scalar (c :: v) ∧ r = v ++ t := by
  unfold skipScalar at h
  split at h
  · next hc => exact ⟨_, hc ▸ .null, readLetters_sound h⟩
  split at h
  · next hc => exact ⟨_, hc ▸ .yes, readLetters_sound h⟩
  split at h
  · next hc => exact ⟨_, hc ▸ .no, readLetters_sound h⟩
  split at h
  · next hc =>
    obtain ⟨v, hv, hr⟩ := skipNumber_sound h
    exact ⟨v, hc ▸ .negative hv, hr⟩
  split at h
  · obtain ⟨v, hv, hr⟩ := skipNumber_sound h
    obtain ⟨d, u, -, rfl⟩ := hv.head
    obtain ⟨rfl, rfl⟩ := List.cons.inj hr
    exact ⟨u, .positive hv, rfl⟩
  split at h
  · next hc =>
    obtain ⟨v, hv, hr⟩ := skipString_sound h
    exact ⟨v ++ ['"'], hc ▸ .string hv, by simp [hr]⟩
  · simp at h

def Inner (c : Char) : Prop :=
  isBlank c = false ∧ c ≠ '[' ∧ c ≠ '{' ∧ c ≠ ']' ∧ c ≠ '}'

lemma Digit.inner {d : Char} (hd : Digit d) : Inner d := by
  refine ⟨?_, hd.ne rfl, hd.ne rfl, hd.ne rfl, hd.ne rfl⟩
  have h₁ : d ≠ ' ' := hd.ne rfl
  have h₂ : d ≠ '\t' := hd.ne rfl
  have h₃ : d ≠ '\n' := hd.ne rfl
  have h₄ : d ≠ '\r' := hd.ne rfl
  simp [isBlank, h₁, h₂, h₃, h₄]

lemma skipScalar_complete {v rest : List Char} (hv : Scalar v) (hr : Stops rest) :
    ∃ c r, v = c :: r ∧ Inner c ∧ skipScalar c (r ++ rest) = .ok rest := by
  have hinner : ∀ c ∈ ['n', 't', 'f', '-', '"'], Inner c := by simp [Inner, isBlank]
  cases hv with
  | null => exact ⟨_, _, rfl, hinner _ (by simp), readLetters_complete ['u', 'l', 'l'] rest⟩
  | yes => exact ⟨_, _, rfl, hinner _ (by simp), readLetters_complete ['r', 'u', 'e'] rest⟩
  | no => exact ⟨_, _, rfl, hinner _ (by simp), readLetters_complete ['a', 'l', 's', 'e'] rest⟩
  | positive hm =>
    obtain ⟨d, r, hd, rfl⟩ := hm.head
    refine ⟨d, r, rfl, hd.inner, ?_⟩
    have h₁ : d ≠ 'n' := hd.ne rfl
    have h₂ : d ≠ 't' := hd.ne rfl
    have h₃ : d ≠ 'f' := hd.ne rfl
    have h₄ : d ≠ '-' := hd.ne rfl
    simpa [skipScalar, h₁, h₂, h₃, h₄, isDigit_iff.mpr hd] using skipNumber_complete hm hr
  | negative hm => exact ⟨_, _, rfl, hinner _ (by simp), skipNumber_complete hm hr⟩
  | string hb =>
    refine ⟨_, _, rfl, hinner _ (by simp), ?_⟩
    rw [List.append_assoc]
    exact skipString_complete hb rest

lemma Stops.nil : Stops [] := trivial

lemma Stops.blanks {w s : List Char} (hw : Blanks w) (hs : Stops s) : Stops (w ++ s) := by
  cases w with
  | nil => exact hs
  | cons c w =>
    have hc := hw c (by simp)
    simp only [List.mem_cons, List.not_mem_nil, or_false] at hc
    rcases hc with rfl | rfl | rfl | rfl <;> exact ⟨by simp [Digit], by decide⟩

lemma Stops.closing (b : Bracket) (s : List Char) : Stops (b.closing :: s) := by
  cases b <;> exact ⟨by simp [Digit, Bracket.closing], by decide⟩

lemma Stops.comma (s : List Char) : Stops (',' :: s) := ⟨by simp [Digit], by decide⟩

lemma readColon_sound {s r : List Char} (h : readColon s = .ok r) :
    ∃ w, Blanks w ∧ s = w ++ ':' :: r := by
  obtain ⟨w, hw, hs⟩ := skipBlank_sound s
  unfold readColon at h
  split at h
  · simp at h
  · next c t hc =>
    split at h
    · next heq =>
      cases h
      exact ⟨w, hw, by rw [← heq, ← hc, ← hs]⟩
    · simp at h

lemma readColon_complete {w : List Char} (hw : Blanks w) (r : List Char) :
    readColon (w ++ ':' :: r) = .ok r := by
  simp [readColon, skipBlank_complete hw (c := ':') rfl]

lemma skipToValue_sound {b : Bracket} {s r : List Char} (h : skipToValue b s = .ok r) :
    ∃ k l, s = l ++ r ∧ ∀ w₁ w₂, Blanks w₁ → Blanks w₂ → Lead b k (w₁ ++ (l ++ w₂)) := by
  cases b with
  | list =>
    cases h
    exact ⟨[], [], rfl, fun w₁ w₂ h₁ h₂ => .element (h₁.append h₂)⟩
  | object =>
    obtain ⟨w, hw, hs⟩ := skipBlank_sound s
    rw [skipToValue, skipKey] at h
    split at h
    · simp at h
    · next c t hc =>
      split at h
      · next heq =>
        obtain ⟨u, hu, hr⟩ := bind_eq_ok.mp h
        obtain ⟨k, hk, rfl⟩ := skipString_sound hu
        obtain ⟨w', hw', rfl⟩ := readColon_sound hr
        refine ⟨k, w ++ '"' :: (k ++ '"' :: (w' ++ [':'])), by rw [hs, hc, heq]; simp, ?_⟩
        intro w₁ w₂ h₁ h₂
        have hl := Lead.member (h₁.append hw) hk hw' h₂
        simpa using hl
      · simp at h

lemma skipToValue_object {w₁ w₂ k : List Char} (h₁ : Blanks w₁) (hk : Body k) (h₂ : Blanks w₂)
    (r : List Char) :
    skipToValue .object (w₁ ++ '"' :: (k ++ '"' :: (w₂ ++ ':' :: r))) = .ok r := by
  simp [skipToValue, skipKey, skipBlank_complete h₁ (c := '"') rfl, skipString_complete hk,
    Except.bind, readColon_complete h₂]

section Steps

variable {b : Bracket} {bs : List Bracket} {s r t : List Char} {c : Char}

lemma skipOpen_value (h : skipBlank s = c :: r) :
    skipOpen bs .value s =
      if c = '[' then skipOpen (.list :: bs) .first r
      else if c = '{' then skipOpen (.object :: bs) .first r
      else (skipScalar c r).bind (skipOpen bs .next) := by
  rw [skipOpen]
  split
  · next he => simp [he] at h
  · next d u he =>
    obtain ⟨rfl, rfl⟩ := List.cons.inj (he.symm.trans h)
    congr 2
    split
    · next he => rw [he, Except.bind]
    · next he => rw [he, Except.bind]

lemma skipOpen_first (h : skipBlank s = c :: r) :
    skipOpen (b :: bs) .first s =
      if c = b.closing then skipOpen bs .next r
      else (skipToValue b (c :: r)).bind (skipOpen (b :: bs) .value) := by
  conv_lhs => rw [skipOpen]
  split
  · next he => simp [he] at h
  · next d u he =>
    obtain ⟨rfl, rfl⟩ := List.cons.inj (he.symm.trans h)
    congr 1
    split
    · next he => rw [he, Except.bind]
    · next he => rw [he, Except.bind]

lemma skipOpen_next (h : skipBlank s = c :: r) :
    skipOpen (b :: bs) .next s =
      if c = b.closing then skipOpen bs .next r
      else if c = ',' then (skipToValue b r).bind (skipOpen (b :: bs) .value)
      else .error (.past (c :: r) b.unseparated) := by
  conv_lhs => rw [skipOpen]
  split
  · next he => simp [he] at h
  · next d u he =>
    obtain ⟨rfl, rfl⟩ := List.cons.inj (he.symm.trans h)
    congr 2
    split
    · next he => rw [he, Except.bind]
    · next he => rw [he, Except.bind]

lemma skipOpen_open (h : skipBlank s = b.opening :: r) :
    skipOpen bs .value s = skipOpen (b :: bs) .first r := by
  rw [skipOpen_value h]
  cases b with
  | list => rfl
  | object => rfl

lemma skipOpen_scalar (h : skipBlank s = c :: r) (hc : Inner c) (ht : skipScalar c r = .ok t) :
    skipOpen bs .value s = skipOpen bs .next t := by
  obtain ⟨-, hl, ho, -, -⟩ := hc
  rw [skipOpen_value h, if_neg hl, if_neg ho, ht, Except.bind]

lemma skipOpen_item (h : skipBlank s = c :: r) (hc : c ≠ b.closing)
    (ht : skipToValue b (c :: r) = .ok t) :
    skipOpen (b :: bs) .first s = skipOpen (b :: bs) .value t := by
  rw [skipOpen_first h, if_neg hc, ht, Except.bind]

lemma skipOpen_comma (h : skipBlank s = ',' :: r) (ht : skipToValue b r = .ok t) :
    skipOpen (b :: bs) .next s = skipOpen (b :: bs) .value t := by
  have hc : ',' ≠ b.closing := by cases b <;> decide
  rw [skipOpen_next h, if_neg hc, if_pos rfl, ht, Except.bind]

lemma skipOpen_skipBlank : skipOpen bs .value (skipBlank s) = skipOpen bs .value s := by
  rw [skipOpen, skipOpen, skipBlank_skipBlank]

end Steps

/-- What the text still holds for the open brackets once an item of the innermost ones has ended. -/
inductive Owed : List Bracket → List Char → Prop
  | nothing : Owed [] []
  | within {b : Bracket} {bs : List Bracket} {ms : List Member} {t u : List Char} : Rest b ms t →
      Owed bs u → Owed (b :: bs) (t ++ b.closing :: u)

def Pays : Expected → List Bracket → List Char → Prop
  | .value, bs, t => ∃ w v u, Blanks w ∧ Value v ∧ Owed bs u ∧ t = w ++ (v ++ u)
  | .first, b :: bs, t => ∃ v u, Value (b.opening :: v) ∧ Owed bs u ∧ t = v ++ u
  | _, bs, t => Owed bs t

lemma Owed.items {b : Bracket} {bs : List Bracket} {k l v t : List Char} (hl : Lead b k l)
    (hv : Value v) (ht : Owed (b :: bs) t) :
    ∃ ms i u, Items b ms i ∧ Owed bs u ∧ l ++ (v ++ t) = i ++ b.closing :: u := by
  cases ht with
  | within hr hu => exact ⟨_, _, _, hr.items hl hv, hu, by simp⟩

lemma skipOpen_sound {bs : List Bracket} {e : Expected} {s r : List Char}
    (h : skipOpen bs e s = .ok r) : ∃ t, Pays e bs t ∧ s = t ++ r := by
  fun_induction skipOpen bs e s with
  | case1 => simp at h
  | case2 s bs t hs ih =>
    obtain ⟨w, hw, hws⟩ := skipBlank_sound s
    obtain ⟨u, ⟨v, u', hv, hu, rfl⟩, rfl⟩ := ih h
    exact ⟨_, ⟨w, _, u', hw, hv, hu, rfl⟩, by rw [hws, hs]; simp [Bracket.opening]⟩
  | case3 s bs t hs _ ih =>
    obtain ⟨w, hw, hws⟩ := skipBlank_sound s
    obtain ⟨u, ⟨v, u', hv, hu, rfl⟩, rfl⟩ := ih h
    exact ⟨_, ⟨w, _, u', hw, hv, hu, rfl⟩, by rw [hws, hs]; simp [Bracket.opening]⟩
  | case4 => simp at h
  | case5 s bs c t hs _ _ u hu ih =>
    obtain ⟨w, hw, hws⟩ := skipBlank_sound s
    obtain ⟨v, hv, rfl⟩ := skipScalar_sound hu
    obtain ⟨u', hu', rfl⟩ := ih h
    exact ⟨_, ⟨w, _, u', hw, .scalar hv, hu', rfl⟩, by rw [hws, hs]; simp⟩
  | case6 e s hne =>
    cases h
    refine ⟨[], ?_, rfl⟩
    cases e with
    | value => exact absurd rfl hne
    | first => exact .nothing
    | next => exact .nothing
  | case7 => simp at h
  | case8 s b bs t hs ih =>
    obtain ⟨w, hw, hws⟩ := skipBlank_sound s
    obtain ⟨u, hu, rfl⟩ := ih h
    exact ⟨_, ⟨w ++ [b.closing], u, .empty b hw, hu, rfl⟩, by rw [hws, hs]; simp⟩
  | case9 => simp at h
  | case10 s b bs c t hs _ u hu ih =>
    obtain ⟨w, hw, hws⟩ := skipBlank_sound s
    obtain ⟨k, l, hl, hlead⟩ := skipToValue_sound hu
    obtain ⟨u', ⟨w', v, u'', hw', hv, howed, rfl⟩, rfl⟩ := ih h
    obtain ⟨ms, i, x, hi, hx, heq⟩ := Owed.items (hlead w w' hw hw') hv howed
    refine ⟨_, ⟨i ++ [b.closing], x, .filled b hi, hx, rfl⟩, ?_⟩
    calc s = w ++ (l ++ (w' ++ (v ++ u'') ++ r)) := by rw [hws, hs, hl]
      _ = w ++ (l ++ w') ++ (v ++ u'') ++ r := by simp
      _ = i ++ [b.closing] ++ x ++ r := by rw [heq]; simp
  | case11 => simp at h
  | case12 s b bs t hs ih =>
    obtain ⟨w, hw, hws⟩ := skipBlank_sound s
    obtain ⟨u, hu, rfl⟩ := ih h
    exact ⟨_, .within (.none hw) hu, by rw [hws, hs]; simp⟩
  | case13 => simp at h
  | case14 s b bs t u hu hs _ ih =>
    obtain ⟨w, hw, hws⟩ := skipBlank_sound s
    obtain ⟨k, l, hl, hlead⟩ := skipToValue_sound hu
    obtain ⟨u', ⟨w', v, u'', hw', hv, howed, rfl⟩, rfl⟩ := ih h
    obtain ⟨ms, i, x, hi, hx, heq⟩ := Owed.items (hlead [] w' .nil hw') hv howed
    refine ⟨_, .within (.more hw hi) hx, ?_⟩
    calc s = w ++ ',' :: (l ++ (w' ++ (v ++ u'') ++ r)) := by rw [hws, hs, hl]
      _ = w ++ ',' :: ([] ++ (l ++ w') ++ (v ++ u'') ++ r) := by simp
      _ = w ++ ',' :: i ++ b.closing :: x ++ r := by rw [heq]; simp
  | case15 => simp at h

lemma skipValue_sound {s r : List Char} (h : skipValue s = .ok r) :
    ∃ w v, Blanks w ∧ Value v ∧ s = w ++ (v ++ r) := by
  obtain ⟨t, ⟨w, v, u, hw, hv, hu, rfl⟩, rfl⟩ := skipOpen_sound h
  cases hu
  exact ⟨w, v, hw, hv, by simp⟩

lemma Value.head {v : List Char} (h : Value v) :
    ∃ c t, v = c :: t ∧ isBlank c = false ∧ ∀ b : Bracket, c ≠ b.closing := by
  have hopening (b : Bracket) :
      isBlank b.opening = false ∧ ∀ a : Bracket, b.opening ≠ a.closing := by
    cases b <;> exact ⟨rfl, fun a => by cases a <;> decide⟩
  cases h with
  | scalar hv =>
    obtain ⟨c, r, rfl, ⟨hb, -, -, hl, ho⟩, -⟩ := skipScalar_complete hv Stops.nil
    refine ⟨c, r, rfl, hb, ?_⟩
    intro b
    cases b with
    | list => exact hl
    | object => exact ho
  | empty b hw => exact ⟨_, _, rfl, hopening b⟩
  | filled b hi => exact ⟨_, _, rfl, hopening b⟩

lemma Items.head {b : Bracket} {ms : List Member} {t : List Char} (h : Items b ms t) :
    ∃ w c u, Blanks w ∧ t = w ++ c :: u ∧ isBlank c = false ∧ c ≠ b.closing := by
  obtain ⟨k, l, v, ms', u, hl, hv, -, -, rfl⟩ := h.uncons
  cases hl with
  | element hw =>
    obtain ⟨c, r, rfl, hc, hne⟩ := hv.head
    exact ⟨_, c, r ++ u, hw, rfl, hc, hne .list⟩
  | member hw _ _ _ => exact ⟨_, '"', _, hw, List.append_assoc _ _ _, rfl, by decide⟩

lemma Rest.stops {b : Bracket} {ms : List Member} {t : List Char} (h : Rest b ms t)
    (s : List Char) : Stops (t ++ b.closing :: s) := by
  cases h with
  | none hw => exact (Stops.closing b s).blanks hw
  | more hw hi =>
    rw [List.append_assoc]
    exact (Stops.comma _).blanks hw

lemma skipToValue_skipBlank {b : Bracket} {s t : List Char} (h : skipToValue b s = .ok t)
    (bs : List Bracket) :
    ∃ u, skipToValue b (skipBlank s) = .ok u ∧
      skipOpen (b :: bs) .value u = skipOpen (b :: bs) .value t := by
  cases b with
  | list =>
    cases h
    exact ⟨skipBlank s, rfl, skipOpen_skipBlank⟩
  | object =>
    refine ⟨t, ?_, rfl⟩
    rw [skipToValue, skipKey] at h ⊢
    rwa [skipBlank_skipBlank]

lemma Lead.skipToValue {b : Bracket} {k l : List Char} (h : Lead b k l) (s : List Char) :
    ∃ w, Blanks w ∧ Json.skipToValue b (l ++ s) = .ok (w ++ s) := by
  cases h with
  | element hw => exact ⟨_, hw, rfl⟩
  | member h₁ hk h₂ h₃ =>
    refine ⟨_, h₃, ?_⟩
    have ht := skipToValue_object h₁ hk h₂
    simpa using ht _

lemma skipOpen_complete :
    (∀ {v}, Value v → ∀ bs w rest, Blanks w → Stops rest →
      skipOpen bs .value (w ++ (v ++ rest)) = skipOpen bs .next rest) ∧
    ∀ {b ms t}, Items b ms t → ∀ bs rest, ∃ u, skipToValue b (t ++ b.closing :: rest) = .ok u ∧
      skipOpen (b :: bs) .value u = skipOpen bs .next rest := by
  have hblank (b : Bracket) : isBlank b.opening = false ∧ isBlank b.closing = false := by
    cases b <;> exact ⟨rfl, rfl⟩
  apply value_and_items_induction
  case scalar =>
    intro v hv bs w rest hw hrest
    obtain ⟨c, r, rfl, hc, ht⟩ := skipScalar_complete hv hrest
    exact skipOpen_scalar (skipBlank_complete hw hc.1 _) hc ht
  case empty =>
    intro b w' hw' bs w rest hw hrest
    rw [List.cons_append, skipOpen_open (skipBlank_complete hw (hblank b).1 _)]
    rw [List.append_assoc, List.singleton_append,
      skipOpen_first (skipBlank_complete hw' (hblank b).2 rest), if_pos rfl]
  case filled =>
    intro b ms t hi ih bs w rest hw hrest
    obtain ⟨u, hu, hskip⟩ := ih bs rest
    obtain ⟨u', hu', heq⟩ := skipToValue_skipBlank hu bs
    obtain ⟨w', c, t', hw', rfl, hc, hne⟩ := hi.head
    have hs : skipBlank (w' ++ c :: t' ++ b.closing :: rest) = c :: (t' ++ b.closing :: rest) := by
      rw [List.append_assoc]
      exact skipBlank_complete hw' hc _
    rw [hs] at hu'
    rw [List.cons_append, skipOpen_open (skipBlank_complete hw (hblank b).1 _)]
    rw [List.append_assoc _ [b.closing] rest, List.singleton_append, skipOpen_item hs hne hu', heq,
      hskip]
  case last =>
    intro b k l v w hl hv ih hw bs rest
    obtain ⟨w', hw', ht⟩ := hl.skipToValue (v ++ (w ++ b.closing :: rest))
    refine ⟨_, by simpa using ht, ?_⟩
    rw [ih _ _ _ hw' ((Stops.closing b rest).blanks hw)]
    rw [skipOpen_next (skipBlank_complete hw (hblank b).2 rest), if_pos rfl]
  case more =>
    intro b k l v w t ms hl hv ih hw hi iht bs rest
    obtain ⟨w', hw', ht⟩ := hl.skipToValue (v ++ (w ++ ',' :: (t ++ b.closing :: rest)))
    obtain ⟨u, hu, hskip⟩ := iht bs rest
    refine ⟨_, by simpa using ht, ?_⟩
    rw [ih _ _ _ hw' ((Stops.comma _).blanks hw), ← hskip]
    exact skipOpen_comma (skipBlank_complete hw rfl _) hu

lemma skipValue_complete {w v rest : List Char} (hw : Blanks w) (hv : Value v)
    (hrest : Stops rest) : skipValue (w ++ (v ++ rest)) = .ok rest := by
  rw [skipValue, skipOpen_complete.1 hv [] w rest hw hrest, skipOpen]
  simp

end Locator.Json
