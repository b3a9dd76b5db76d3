import Locator.Proofs.Json.Objects
import Locator.Settings.Reader

/-! A key that occurs sets its field once; the reader is followed entry by entry. -/

namespace Locator.Settings

open Json

def valuesOf (key : String) (es : List Entry) : List (List Char) :=
  (es.filter (·.key = key)).map Entry.value

def StrategyText (v : List Char) (strategy : StrategySetting) : Prop :=
  ∃ raw, Quotes v raw ∧ strategy = .ofString raw

/-- A field before and after the values under its key are read: one value sets a field that is not
set yet. -/
inductive Settles {α : Type} (Reads : List Char → α → Prop) :
    Option α → List (List Char) → Option α → Prop
  | unchanged {a? : Option α} : Settles Reads a? [] a?
  | set {v : List Char} {a : α} : Reads v a → Settles Reads none [v] (some a)

def Describes (es : List Entry) (s : Settings) : Prop :=
  ∃ strategy? path?, Settles StrategyText none (valuesOf strategyKey es) strategy? ∧
    Settles NullOrQuotes none (valuesOf executablePathKey es) path? ∧
    s = ⟨strategy?.getD default, path?.getD none⟩

lemma settles_nil {α : Type} {Reads : List Char → α → Prop} {a? b? : Option α} :
    Settles Reads a? [] b? ↔ a? = b? := by
  constructor
  · intro h
    cases h
    rfl
  · rintro rfl
    exact .unchanged

lemma settles_singleton {α : Type} {Reads : List Char → α → Prop} {v : List Char}
    {a? b? : Option α} :
    Settles Reads a? [v] b? ↔ a? = none ∧ ∃ a, Reads v a ∧ b? = some a := by
  constructor
  · intro h
    cases h with
    | set hv => exact ⟨rfl, _, hv, rfl⟩
  · rintro ⟨rfl, a, hv, rfl⟩
    exact .set hv

lemma settles_append {α : Type} {Reads : List Char → α → Prop} {vs ws : List (List Char)}
    {a? c? : Option α} :
    Settles Reads a? (vs ++ ws) c? ↔ ∃ b?, Settles Reads a? vs b? ∧ Settles Reads b? ws c? := by
  constructor
  · intro h
    cases vs with
    | nil => exact ⟨a?, .unchanged, h⟩
    | cons v vs =>
      generalize hl : v :: vs ++ ws = l at h
      cases h with
      | unchanged => cases hl
      | set hv =>
        obtain ⟨rfl, hnil⟩ := List.cons.inj hl
        obtain ⟨rfl, rfl⟩ := List.append_eq_nil_iff.mp hnil
        exact ⟨_, .set hv, .unchanged⟩
  · rintro ⟨b?, h₁, h₂⟩
    cases h₁ with
    | unchanged => exact h₂
    | set hv =>
      cases h₂ with
      | unchanged => exact .set hv

def Settled (seen : Seen) (es : List Entry) (seen' : Seen) : Prop :=
  Settles StrategyText seen.strategy (valuesOf strategyKey es) seen'.strategy ∧
    Settles NullOrQuotes seen.executablePath (valuesOf executablePathKey es) seen'.executablePath

lemma settled_nil {seen seen' : Seen} : Settled seen [] seen' ↔ seen = seen' := by
  cases seen
  cases seen'
  simp [Settled, valuesOf, settles_nil]

lemma settled_cons {seen seen' : Seen} {e : Entry} {es : List Entry} :
    Settled seen (e :: es) seen' ↔
      ∃ between, Settled seen [e] between ∧ Settled between es seen' := by
  have hvalues (key : String) : valuesOf key (e :: es) = valuesOf key [e] ++ valuesOf key es := by
    rw [valuesOf, valuesOf, valuesOf, ← List.map_append, ← List.filter_append,
      List.singleton_append]
  simp only [Settled, hvalues, settles_append]
  constructor
  · rintro ⟨⟨strategy?, h₁, h₂⟩, path?, h₃, h₄⟩
    exact ⟨⟨strategy?, path?⟩, ⟨h₁, h₃⟩, h₂, h₄⟩
  · rintro ⟨between, ⟨h₁, h₃⟩, h₂, h₄⟩
    exact ⟨⟨_, h₁, h₂⟩, _, h₃, h₄⟩

lemma settled_strategy {seen seen' : Seen} {v : List Char} :
    Settled seen [⟨strategyKey, v⟩] seen' ↔ seen.strategy = none ∧
      ∃ strategy, StrategyText v strategy ∧ seen' = { seen with strategy := some strategy } := by
  have hne : strategyKey ≠ executablePathKey := by decide
  cases seen
  cases seen'
  simp only [Settled, valuesOf, List.filter_cons, List.filter_nil, List.map_cons, List.map_nil,
    decide_true, decide_false, hne, if_true, Bool.false_eq_true, if_false, settles_nil,
    settles_singleton, Seen.mk.injEq]
  constructor
  · rintro ⟨⟨rfl, strategy, hv, rfl⟩, rfl⟩
    exact ⟨rfl, strategy, hv, rfl, rfl⟩
  · rintro ⟨rfl, strategy, hv, rfl, rfl⟩
    exact ⟨⟨rfl, strategy, hv, rfl⟩, rfl⟩

lemma settled_path {seen seen' : Seen} {v : List Char} :
    Settled seen [⟨executablePathKey, v⟩] seen' ↔ seen.executablePath = none ∧
      ∃ path?, NullOrQuotes v path? ∧ seen' = { seen with executablePath := some path? } := by
  have hne : executablePathKey ≠ strategyKey := by decide
  cases seen
  cases seen'
  simp only [Settled, valuesOf, List.filter_cons, List.filter_nil, List.map_cons, List.map_nil,
    decide_true, decide_false, hne, if_true, Bool.false_eq_true, if_false, settles_nil,
    settles_singleton, Seen.mk.injEq]
  constructor
  · rintro ⟨rfl, rfl, path?, hv, rfl⟩
    exact ⟨rfl, path?, hv, rfl, rfl⟩
  · rintro ⟨rfl, path?, hv, rfl, rfl⟩
    exact ⟨rfl, rfl, path?, hv, rfl⟩

lemma settled_other {seen seen' : Seen} {e : Entry} (h₁ : e.key ≠ strategyKey)
    (h₂ : e.key ≠ executablePathKey) : Settled seen [e] seen' ↔ seen = seen' := by
  cases seen
  cases seen'
  simp [Settled, valuesOf, settles_nil, h₁, h₂]

lemma readStrategy_sound {s r : List Char} {strategy : StrategySetting}
    (h : readStrategy s = .ok (strategy, r)) :
    ∃ w v, Blanks w ∧ StrategyText v strategy ∧ s = w ++ (v ++ r) := by
  obtain ⟨⟨raw, t⟩, ht, hp⟩ := map_eq_ok.mp h
  cases hp
  obtain ⟨w, v, hw, hv, hs⟩ := readText_sound ht
  exact ⟨w, v, hw, ⟨raw, hv, rfl⟩, hs⟩

lemma readStrategy_complete {w v : List Char} {strategy : StrategySetting} (hw : Blanks w)
    (hv : StrategyText v strategy) (r : List Char) :
    readStrategy (w ++ (v ++ r)) = .ok (strategy, r) := by
  obtain ⟨raw, hraw, rfl⟩ := hv
  rw [readStrategy, readText_complete hw hraw, Except.map]

lemma readMember_sound {seen seen' : Seen} {key : String} {s r : List Char}
    (h : readMember seen key s = .ok (seen', r)) :
    ∃ w₁ w₂ v, Blanks w₁ ∧ Blanks w₂ ∧ Value v ∧ Settled seen [⟨key, v⟩] seen' ∧
      s = w₁ ++ ':' :: (w₂ ++ (v ++ r)) := by
  rw [readMember] at h
  split at h
  · next hkey =>
    subst hkey
    split at h
    · simp at h
    · next hnone =>
      obtain ⟨t, ht, h⟩ := bind_eq_ok.mp h
      obtain ⟨⟨strategy, u⟩, hu, h⟩ := bind_eq_ok.mp h
      cases h
      obtain ⟨w₁, h₁, rfl⟩ := readColon_sound ht
      obtain ⟨w₂, v, h₂, hv, rfl⟩ := readStrategy_sound hu
      obtain ⟨raw, hraw, -⟩ := id hv
      refine ⟨w₁, w₂, v, h₁, h₂, hraw.value, settled_strategy.mpr ⟨?_, strategy, hv, rfl⟩, rfl⟩
      simpa using hnone
  split at h
  · next hkey =>
    subst hkey
    split at h
    · simp at h
    · next hnone =>
      obtain ⟨t, ht, h⟩ := bind_eq_ok.mp h
      obtain ⟨⟨path?, u⟩, hu, h⟩ := bind_eq_ok.mp h
      cases h
      obtain ⟨w₁, h₁, rfl⟩ := readColon_sound ht
      obtain ⟨w₂, v, h₂, hv, rfl⟩ := readText?_sound hu
      refine ⟨w₁, w₂, v, h₁, h₂, hv.value, settled_path.mpr ⟨?_, path?, hv, rfl⟩, rfl⟩
      simpa using hnone
  · next hs hp =>
    obtain ⟨t, ht, h⟩ := bind_eq_ok.mp h
    obtain ⟨u, hu, h⟩ := bind_eq_ok.mp h
    cases h
    obtain ⟨w₁, h₁, rfl⟩ := readColon_sound ht
    obtain ⟨w₂, v, h₂, hv, rfl⟩ := skipValue_sound hu
    exact ⟨w₁, w₂, v, h₁, h₂, hv, (settled_other hs hp).mpr rfl, rfl⟩

lemma readMember_complete {seen seen' : Seen} {e : Entry} {w₁ w₂ r : List Char} (h₁ : Blanks w₁)
    (h₂ : Blanks w₂) (hv : Value e.value) (hr : Stops r) (h : Settled seen [e] seen') :
    readMember seen e.key (w₁ ++ ':' :: (w₂ ++ (e.value ++ r))) = .ok (seen', r) := by
  obtain ⟨key, v⟩ := e
  rw [readMember, readColon_complete h₁]
  split
  · next hkey =>
    cases hkey
    obtain ⟨hnone, strategy, hs, rfl⟩ := settled_strategy.mp h
    simp only [hnone, bind, Except.bind, readStrategy_complete h₂ hs r]
    rfl
  split
  · next hkey =>
    cases hkey
    obtain ⟨hnone, path?, hp, rfl⟩ := settled_path.mp h
    simp only [hnone, bind, Except.bind, readText?_complete h₂ hp r]
    rfl
  · next hs hp =>
    obtain rfl := (settled_other hs hp).mp h
    simp only [bind, Except.bind, skipValue_complete h₂ hv hr]
    rfl

lemma readMembers_sound {seen seen' : Seen} {first : Bool} {s r : List Char}
    (h : readMembers seen first s = .ok (seen', r)) :
    ∃ ms es t u, Ahead first ms t ∧ List.Forall₂ Member.Decodes ms es ∧ Settled seen es seen' ∧
      r = '}' :: u ∧ s = t ++ r := by
  fun_induction readMembers seen first s with
  | case1 => simp at h
  | case2 seen first s t ht =>
    cases h
    obtain ⟨w, u, hw, rfl, rfl⟩ := nextKey_none ht
    refine ⟨[], [], w, u, ?_, .nil, settled_nil.mpr rfl, rfl, rfl⟩
    cases first with
    | true => exact .empty hw
    | false => exact .none hw
  | case3 => simp at h
  | case4 seen first s key t ht between u hu ih =>
    obtain ⟨sep, w, k, hw, hk, rfl, hahead⟩ := nextKey_some ht
    obtain ⟨w₁, w₂, v, h₁, h₂, hv, hsettled, rfl⟩ := readMember_sound hu
    obtain ⟨ms, es, i, x, hrest, hes, hmore, rfl, rfl⟩ := ih h
    have hitems := Rest.items (Lead.member hw hk.body h₁ h₂) hv hrest
    refine ⟨⟨k, v⟩ :: ms, ⟨key, v⟩ :: es, _, x, hahead _ _ hitems, .cons ⟨hk, rfl⟩ hes, ?_, rfl, ?_⟩
    · exact settled_cons.mpr ⟨between, hsettled, hmore⟩
    · simp

lemma readMembers_nil {seen : Seen} {first : Bool} {s r : List Char}
    (h : nextKey first s = .ok (none, r)) : readMembers seen first s = .ok (seen, r) := by
  rw [readMembers]
  split
  · next he => rw [h] at he; cases he
  · next he => rw [h] at he; cases he; rfl
  · next he => rw [h] at he; cases he

lemma readMembers_cons {seen seen' : Seen} {first : Bool} {key : String} {s r t : List Char}
    (h : nextKey first s = .ok (some key, r)) (hm : readMember seen key r = .ok (seen', t)) :
    readMembers seen first s = readMembers seen' false t := by
  conv_lhs => rw [readMembers]
  split
  · next he => rw [h] at he; cases he
  · next he => rw [h] at he; cases he
  · next he =>
    rw [h] at he
    cases he
    split
    · next he => rw [hm] at he; cases he
    · next he => rw [hm] at he; cases he; rfl

lemma readMembers_complete {seen seen' : Seen} {first : Bool} {ms : List Member} {es : List Entry}
    {t : List Char} (ht : Ahead first ms t) (hes : List.Forall₂ Member.Decodes ms es)
    (h : Settled seen es seen') (r : List Char) :
    readMembers seen first (t ++ '}' :: r) = .ok (seen', '}' :: r) := by
  induction ms generalizing seen first es t with
  | nil =>
    cases hes
    obtain rfl := settled_nil.mp h
    exact readMembers_nil (ht.nextKey_nil r)
  | cons m ms ih =>
    cases hes with
    | cons hm hes =>
      obtain ⟨between, hone, hmore⟩ := settled_cons.mp h
      obtain ⟨w₁, w₂, u, h₁, h₂, hv, hrest, hnext⟩ := ht.nextKey_cons hm
      have hread := readMember_complete h₁ h₂ hv (hrest.stops r) hone
      rw [readMembers_cons (hnext ('}' :: r)) hread]
      exact ih hrest hes hmore

lemma describes_iff {es : List Entry} {s : Settings} :
    Describes es s ↔ ∃ seen, Settled {} es seen ∧ s = seen.settings := by
  constructor
  · rintro ⟨strategy?, path?, h₁, h₂, rfl⟩
    exact ⟨⟨strategy?, path?⟩, ⟨h₁, h₂⟩, rfl⟩
  · rintro ⟨⟨strategy?, path?⟩, ⟨h₁, h₂⟩, rfl⟩
    exact ⟨strategy?, path?, h₁, h₂, rfl⟩

lemma readObject_eq_ok {t r : List Char} {s : Settings} :
    readObject t = .ok (s, r) ↔ ∃ ms es c, Contents .object ms c ∧
      List.Forall₂ Member.Decodes ms es ∧ Describes es s ∧ t = c ++ '}' :: r := by
  constructor
  · intro h
    obtain ⟨⟨seen, u⟩, hm, hu⟩ := bind_eq_ok.mp h
    obtain ⟨ms, es, c, v, hc, hes, hsettled, rfl, rfl⟩ := readMembers_sound hm
    cases hu
    exact ⟨ms, es, c, hc, hes, describes_iff.mpr ⟨seen, hsettled, rfl⟩, rfl⟩
  · rintro ⟨ms, es, c, hc, hes, hdescribes, rfl⟩
    obtain ⟨seen, hsettled, rfl⟩ := describes_iff.mp hdescribes
    have hahead : Ahead true ms c := hc
    rw [readObject, readMembers_complete hahead hes hsettled]
    rfl

lemma ofFile_eq_ok {path : Option Path} {text : String} {s : Settings} :
    ofFile path text = .ok s ↔ ∃ r, read text.toList = .ok (s, r) ∧ Blanks r := by
  rw [← readDocument_eq_ok, ofFile]
  cases readDocument read text <;> simp

lemma read_object {w : List Char} (hw : Blanks w) (r : List Char) :
    read (w ++ '{' :: r) = readObject r := by
  simp [read, skipBlank_complete hw (c := '{') rfl]

lemma ofJson_of_holds {text : String} {es : List Entry} {s : Settings} (h : Holds text.toList es)
    (hs : Describes es s) : ofJson text = .ok s := by
  obtain ⟨w₁, ms, c, w₂, h₁, hc, h₂, hes, htext⟩ := h
  refine ofFile_eq_ok.mpr ⟨w₂, ?_, h₂⟩
  rw [htext, read_object h₁]
  exact readObject_eq_ok.mpr ⟨ms, es, c, hc, hes, hs, rfl⟩

lemma holds_of_ofJson {text : String} {s : Settings} {w r : List Char} (hw : Blanks w)
    (htext : text.toList = w ++ '{' :: r) (h : ofJson text = .ok s) :
    ∃ es, Holds text.toList es ∧ Describes es s := by
  obtain ⟨u, hu, hblank⟩ := ofFile_eq_ok.mp h
  rw [htext, read_object hw] at hu
  obtain ⟨ms, es, c, hc, hes, hs, rfl⟩ := readObject_eq_ok.mp hu
  exact ⟨es, ⟨w, ms, c, u, hw, hc, hblank, hes, htext⟩, hs⟩

lemma ofJson_iff_of_holds {text : String} {es : List Entry} {s : Settings}
    (h : Holds text.toList es) : ofJson text = .ok s ↔ Describes es s := by
  refine ⟨?_, ofJson_of_holds h⟩
  intro hok
  obtain ⟨w₁, ms, c, w₂, h₁, -, -, -, htext⟩ := id h
  obtain ⟨es', h', hs⟩ := holds_of_ofJson h₁ htext hok
  rwa [h.unique h']

def IsSetting (e : Entry) : Bool := e.key = strategyKey || e.key = executablePathKey

lemma Settles.perm {α : Type} {Reads : List Char → α → Prop} {vs ws : List (List Char)}
    {a? b? : Option α} (h : Settles Reads a? vs b?) (hp : vs.Perm ws) : Settles Reads a? ws b? := by
  cases h with
  | unchanged =>
    rw [← hp.nil_eq]
    exact .unchanged
  | set hv =>
    rw [← List.singleton_perm.mp hp]
    exact .set hv

lemma Describes.perm {es es' : List Entry} {s : Settings} (h : Describes es s)
    (hp : (es.filter IsSetting).Perm (es'.filter IsSetting)) : Describes es' s := by
  have hvalues {key : String} (hkey : key = strategyKey ∨ key = executablePathKey) :
      (valuesOf key es).Perm (valuesOf key es') := by
    have hfilter (l : List Entry) : valuesOf key l = valuesOf key (l.filter IsSetting) := by
      rw [valuesOf, valuesOf, List.filter_filter]
      congr 2
      funext e
      by_cases he : e.key = key
      · rcases hkey with rfl | rfl <;> simp [IsSetting, he]
      · simp [he]
    rw [hfilter es, hfilter es']
    exact (hp.filter _).map _
  obtain ⟨strategy?, path?, h₁, h₂, hs⟩ := h
  exact ⟨strategy?, path?, h₁.perm (hvalues (.inl rfl)), h₂.perm (hvalues (.inr rfl)), hs⟩

/-- A text that starts an object is read if and only if it is one object that describes settings,
and then as these settings. Two objects that share their settings, in whatever order and among
whatever other members, are read alike. -/
theorem ofJson_iff_settings_object (text : String)
    (hopen : ∃ w r, Blanks w ∧ text.toList = w ++ '{' :: r) :
    (∀ s, ofJson text = .ok s ↔ ∃ es, Holds text.toList es ∧ Describes es s) ∧
    ∀ es text' es', Holds text.toList es → Holds text'.toList es' →
      (es.filter IsSetting).Perm (es'.filter IsSetting) →
      ∀ s, ofJson text = .ok s ↔ ofJson text' = .ok s := by
  obtain ⟨w, r, hw, htext⟩ := hopen
  constructor
  · intro s
    refine ⟨holds_of_ofJson hw htext, ?_⟩
    rintro ⟨es, hes, hs⟩
    exact ofJson_of_holds hes hs
  · intro es text' es' hes hes' hp s
    rw [ofJson_iff_of_holds hes, ofJson_iff_of_holds hes']
    exact ⟨fun h => h.perm hp, fun h => h.perm hp.symm⟩

theorem ofJson_lone_surrogate_passed_over :
    ofJson "\x7b\"n\":[\"\\ud800\"],\"jarl.executablePath\":null\x7d" = .ok {} := by
  have hopen : ∃ w r, Blanks w ∧
      "\x7b\"n\":[\"\\ud800\"],\"jarl.executablePath\":null\x7d".toList = w ++ '{' :: r :=
    ⟨[], _, .nil, by simp; rfl⟩
  have hcode : HexCode ['d', '8', '0', '0'] 0xd800 :=
    @HexCode.digits 'd' '8' '0' '0' 13 8 0 0 (@HexDigit.lower _ 3 (by decide) rfl)
      (.digit (by decide) rfl) (.digit (by decide) rfl) (.digit (by decide) rfl)
  have hlist : Value ['[', '"', '\\', 'u', 'd', '8', '0', '0', '"', ']'] :=
    .filled .list (.last (.element .nil) (.scalar (.string (.code hcode .nil))) .nil)
  have hn := spells_written "n".toList
  have hp := spells_written executablePathKey.toList
  have hitems := Items.more (.member .nil hn.body .nil .nil) hlist .nil
    (.last (.member .nil hp.body .nil .nil) (.scalar .null) .nil)
  refine ((ofJson_iff_settings_object _ hopen).1 {}).mpr
    ⟨[⟨"n", _⟩, ⟨executablePathKey, _⟩], ⟨[], _, _, [], .nil, .filled hitems, .nil,
      .cons ⟨hn, rfl⟩ (.cons ⟨hp, rfl⟩ .nil), ?_⟩, none, some none, ?_, ?_, rfl⟩
  · decide
  · exact .unchanged
  · exact .set .null

end Locator.Settings
