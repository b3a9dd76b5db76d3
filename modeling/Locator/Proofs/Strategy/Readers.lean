import Locator.Proofs.Json.Objects
import Locator.Strategy.Reader

namespace Locator

open Json

def HoldsString (t : List Char) (raw : String) : Prop :=
  ∃ w₁ v w₂, Blanks w₁ ∧ Quotes v raw ∧ Blanks w₂ ∧ t = w₁ ++ (v ++ w₂)

lemma holdsString_iff {t : List Char} {raw : String} :
    HoldsString t raw ↔ ∃ r, readText t = .ok (raw, r) ∧ Blanks r := by
  constructor
  · rintro ⟨w₁, v, w₂, h₁, hv, h₂, rfl⟩
    exact ⟨w₂, readText_complete h₁ hv w₂, h₂⟩
  · rintro ⟨r, hr, hblank⟩
    obtain ⟨w, v, hw, hv, ht⟩ := readText_sound hr
    exact ⟨w, v, r, hw, hv, hblank, ht⟩

lemma HoldsString.unique {t : List Char} {raw raw' : String} (h : HoldsString t raw)
    (h' : HoldsString t raw') : raw = raw' := by
  obtain ⟨r, hr, -⟩ := holdsString_iff.mp h
  obtain ⟨r', hr', -⟩ := holdsString_iff.mp h'
  rw [hr] at hr'
  cases hr'
  rfl

namespace Strategy

def variants : List String := all.map variant

lemma variant_eq_name (strategy : Strategy) : strategy.variant = strategy.name := by
  cases strategy <;> decide

lemma find?_variant (name : String) : all.find? (·.variant == name) = ofName? name := by
  simp only [ofName?, variant_eq_name]

lemma ofVariant_of_some {name : String} {strategy : Strategy} (h : ofName? name = some strategy)
    (s : List Char) : ofVariant name s = .ok (strategy, s) := by
  rw [ofVariant, find?_variant, h]

lemma ofVariant_of_none {name : String} (h : ofName? name = none) (s : List Char) :
    ofVariant name s = .error (.before s (.unknownVariant name variants)) := by
  rw [ofVariant, find?_variant, h]
  rfl

lemma read_of_quote {w : List Char} (hw : Blanks w) (r : List Char) :
    read (w ++ '"' :: r) = (readText (w ++ '"' :: r)).bind fun p => ofVariant p.1 p.2 := by
  rw [read, readText, skipBlank_complete hw rfl]
  cases hr : readString r with
  | error e => simp [readName, hr, bind, Except.bind, Except.map]
  | ok p => simp [readName, hr, bind, Except.bind, Except.map]

end Strategy

lemma StrategySetting.ofString_eq_known {raw : String} {strategy : Strategy} :
    ofString raw = .known strategy ↔ Strategy.ofName? raw = some strategy := by
  rw [ofString]
  cases Strategy.ofName? raw <;> simp

lemma StrategySetting.ofString_eq_unrecognized {raw raw' : String} :
    ofString raw = .unrecognized raw' ↔ Strategy.ofName? raw = none ∧ raw = raw' := by
  rw [ofString]
  cases Strategy.ofName? raw <;> simp

lemma StrategySetting.ofJson_eq_ok {text : String} {setting : StrategySetting} :
    ofJson text = .ok setting ↔
      ∃ raw, HoldsString text.toList raw ∧ ofString raw = setting := by
  rw [ofJson, map_eq_ok]
  simp only [readDocument_eq_ok, holdsString_iff]

namespace Strategy

variable {text : String} {w r : List Char}

lemma ofJson_eq_ok (hw : Blanks w) (htext : text.toList = w ++ '"' :: r) {strategy : Strategy} :
    ofJson text = .ok strategy ↔
      ∃ raw, HoldsString text.toList raw ∧ ofName? raw = some strategy := by
  rw [ofJson, readDocument_eq_ok, htext, read_of_quote hw]
  constructor
  · rintro ⟨t, ht, hblank⟩
    obtain ⟨⟨raw, u⟩, hraw, hu⟩ := bind_eq_ok.mp ht
    dsimp only at hu
    cases hname : ofName? raw with
    | none =>
      rw [ofVariant_of_none hname] at hu
      cases hu
    | some found =>
      rw [ofVariant_of_some hname] at hu
      cases hu
      exact ⟨raw, holdsString_iff.mpr ⟨t, hraw, hblank⟩, hname⟩
  · rintro ⟨raw, hholds, hname⟩
    obtain ⟨t, ht, hblank⟩ := holdsString_iff.mp hholds
    refine ⟨t, bind_eq_ok.mpr ⟨(raw, t), ht, ?_⟩, hblank⟩
    exact ofVariant_of_some hname t

lemma ofJson_of_none (hw : Blanks w) (htext : text.toList = w ++ '"' :: r) {raw : String}
    (h : HoldsString text.toList raw) (hname : ofName? raw = none) :
    ∃ left, ofJson text = .error ⟨.unknownVariant raw variants, left⟩ := by
  obtain ⟨t, ht, -⟩ := holdsString_iff.mp h
  rw [htext] at ht
  refine ⟨byteSize t, ?_⟩
  rw [ofJson, readDocument, htext, read_of_quote hw, ht, Except.bind, ofVariant_of_none hname]
  rfl

end Strategy

/-- On a text that starts with a quote, a setting is known exactly when the strategy is read. A text
that is one string always makes a setting, and one that no strategy goes by exactly when the string
is an unknown variant. Any other such text makes neither. The variants are the names. -/
theorem readers_agree_on_strings (text : String)
    (hopen : ∃ w r, Blanks w ∧ text.toList = w ++ '"' :: r) :
    (∀ strategy, StrategySetting.ofJson text = .ok (.known strategy) ↔
      Strategy.ofJson text = .ok strategy) ∧
    (∀ raw, HoldsString text.toList raw →
      StrategySetting.ofJson text = .ok (.ofString raw) ∧
      ∀ raw', StrategySetting.ofJson text = .ok (.unrecognized raw') ↔
        ∃ left, Strategy.ofJson text = .error ⟨.unknownVariant raw' Strategy.variants, left⟩) ∧
    ((¬ ∃ raw, HoldsString text.toList raw) →
      (∃ e, StrategySetting.ofJson text = .error e) ∧ ∃ e, Strategy.ofJson text = .error e) ∧
    Strategy.all.map Strategy.variant = Strategy.all.map Strategy.name := by
  obtain ⟨w, r, hw, htext⟩ := hopen
  refine ⟨?_, ?_, ?_, List.map_congr_left fun s _ => s.variant_eq_name⟩
  · intro strategy
    simp only [StrategySetting.ofJson_eq_ok, Strategy.ofJson_eq_ok hw htext,
      StrategySetting.ofString_eq_known]
  · intro raw hraw
    refine ⟨StrategySetting.ofJson_eq_ok.mpr ⟨raw, hraw, rfl⟩, ?_⟩
    intro raw'
    constructor
    · intro h
      obtain ⟨found, hfound, hsetting⟩ := StrategySetting.ofJson_eq_ok.mp h
      obtain ⟨hname, rfl⟩ := StrategySetting.ofString_eq_unrecognized.mp hsetting
      exact Strategy.ofJson_of_none hw htext hfound hname
    · rintro ⟨left, hfault⟩
      cases hname : Strategy.ofName? raw with
      | none =>
        obtain ⟨left', hfault'⟩ := Strategy.ofJson_of_none hw htext hraw hname
        rw [hfault] at hfault'
        cases hfault'
        apply StrategySetting.ofJson_eq_ok.mpr
        exact ⟨raw, hraw, StrategySetting.ofString_eq_unrecognized.mpr ⟨hname, rfl⟩⟩
      | some strategy =>
        rw [(Strategy.ofJson_eq_ok hw htext).mpr ⟨raw, hraw, hname⟩] at hfault
        cases hfault
  · intro hnone
    constructor
    · cases hread : StrategySetting.ofJson text with
      | error e => exact ⟨e, rfl⟩
      | ok setting =>
        obtain ⟨raw, hraw, -⟩ := StrategySetting.ofJson_eq_ok.mp hread
        exact absurd ⟨raw, hraw⟩ hnone
    · cases hread : Strategy.ofJson text with
      | error e => exact ⟨e, rfl⟩
      | ok strategy =>
        obtain ⟨raw, hraw, -⟩ := (Strategy.ofJson_eq_ok hw htext).mp hread
        exact absurd ⟨raw, hraw⟩ hnone

theorem readers_agree_on_escapes :
    StrategySetting.ofJson " \"\\u0070ath\"\n" = .ok (.known .path) ∧
      Strategy.ofJson " \"\\u0070ath\"\n" = .ok .path ∧
      ∃ e, Strategy.ofJson "\"\\ud800\"" = .error e := by
  have hspace : Blanks [' '] := by simp [Blanks]
  have hnewline : Blanks ['\n'] := by simp [Blanks]
  have hcode : HexCode ['0', '0', '7', '0'] 'p'.toNat :=
    @HexCode.digits '0' '0' '7' '0' 0 0 7 0 (.digit (by decide) rfl) (.digit (by decide) rfl)
      (.digit (by decide) rfl) (.digit (by decide) rfl)
  have hpath : HoldsString " \"\\u0070ath\"\n".toList "path" :=
    ⟨[' '], _, ['\n'], hspace, ⟨_, .code hcode (spells_written "ath".toList), rfl⟩, hnewline,
      by decide⟩
  have hopen : ∃ w r, Blanks w ∧ " \"\\u0070ath\"\n".toList = w ++ '"' :: r :=
    ⟨[' '], ['\\', 'u', '0', '0', '7', '0', 'a', 't', 'h', '"', '\n'], hspace, by decide⟩
  obtain ⟨hknown, hall, -⟩ := readers_agree_on_strings _ hopen
  have hsetting := (hall "path" hpath).1
  refine ⟨hsetting, (hknown .path).mp hsetting, ?_⟩
  have hopen' : ∃ w r, Blanks w ∧ "\"\\ud800\"".toList = w ++ '"' :: r :=
    ⟨[], ['\\', 'u', 'd', '8', '0', '0', '"'], .nil, by decide⟩
  apply ((readers_agree_on_strings _ hopen').2.2.1 ?_).2
  rintro ⟨raw, hraw⟩
  obtain ⟨r, hr, -⟩ := holdsString_iff.mp hraw
  have hfails : readText "\"\\ud800\"".toList = .error (.past ['"'] .brokenSurrogatePair) := by
    decide +kernel
  rw [hfails] at hr
  cases hr

end Locator
