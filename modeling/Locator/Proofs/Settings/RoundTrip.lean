import Locator.Program
import Locator.Proofs.Resolver.Ports
import Locator.Proofs.Settings.Format

namespace Locator

open Json

namespace StrategySetting

def normalized : StrategySetting → StrategySetting
  | .unrecognized "bundled" => .known .bundled
  | .unrecognized "environment" => .known .environment
  | .unrecognized "path" => .known .path
  | setting => setting

lemma toString_ofString (raw : String) : (ofString raw).toString = raw := by
  unfold ofString
  split
  · next strategy h => simpa [toString] using List.find?_some h
  · rfl

lemma ofString_toString (setting : StrategySetting) :
    ofString setting.toString = setting.normalized := by
  cases setting with
  | known strategy => cases strategy <;> rfl
  | unrecognized raw =>
    unfold normalized
    split
    · next h => cases h; rfl
    · next h => cases h; rfl
    · next h => cases h; rfl
    · next hbundled henvironment hpath =>
      have hnone : Strategy.ofName? raw = none := by
        refine List.find?_eq_none.mpr ?_
        intro strategy _ hname
        obtain rfl := eq_of_beq hname
        cases strategy with
        | bundled => exact hbundled rfl
        | environment => exact henvironment rfl
        | path => exact hpath rfl
      simp only [toString, ofString, hnone]

lemma normalized_ofString (raw : String) : (ofString raw).normalized = ofString raw := by
  rw [← ofString_toString, toString_ofString]

lemma toString_normalized (setting : StrategySetting) :
    setting.normalized.toString = setting.toString := by
  rw [← ofString_toString, toString_ofString]

end StrategySetting

namespace Settings

def normalized (s : Settings) : Settings := { s with strategy := s.strategy.normalized }

inductive Obtained : Settings → Prop
  | parsed {text : String} {s : Settings} : ofJson text = .ok s → Obtained s
  | loaded {σ : Type} (host : Host (StateM σ)) (path : Path) {before after : σ} {s : Settings} :
      (load host path).run before = (.ok s, after) → Obtained s
  | unset : Obtained {}
  | merged (invocation : Invocation) {file : Settings} : Obtained file →
      Obtained (Program.mergeSettings invocation file)

def entries (s : Settings) : List Entry :=
  s.members.map fun (key, value) => ⟨key, quoteChars value.toList⟩

lemma quotes_quoteChars (text : String) : Quotes (quoteChars text.toList) text :=
  ⟨_, spells_written text.toList, rfl⟩

lemma holds_toJson (s : Settings) : Holds s.toJson.toList s.entries := by
  have hkey (key : String) := spells_written key.toList
  have hlead (key : String) := Lead.member .nil (hkey key).body .nil .nil
  have hvalue (text : String) := (quotes_quoteChars text).value
  obtain ⟨strategy, _ | path⟩ := s
  · refine ⟨[], _, _, [], .nil, .filled (.last (hlead strategyKey) (hvalue strategy.toString) .nil),
      .nil, .cons ⟨hkey strategyKey, rfl⟩ .nil, ?_⟩
    simp [toJson, members, Json.quote, quoteChars]
  · refine ⟨[], _, _, [], .nil, .filled (.more (hlead strategyKey) (hvalue strategy.toString) .nil
      (.last (hlead executablePathKey) (hvalue path) .nil)), .nil,
      .cons ⟨hkey strategyKey, rfl⟩ (.cons ⟨hkey executablePathKey, rfl⟩ .nil), ?_⟩
    simp [toJson, members, Json.quote, quoteChars]

lemma describes_entries (s : Settings) : Describes s.entries s.normalized := by
  obtain ⟨strategy, path?⟩ := s
  have hstrategy : StrategyText (quoteChars strategy.toString.toList) strategy.normalized :=
    ⟨_, quotes_quoteChars _, (strategy.ofString_toString).symm⟩
  cases path? with
  | none => exact ⟨some strategy.normalized, none, .set hstrategy, .unchanged, rfl⟩
  | some path =>
    exact ⟨some strategy.normalized, some (some path), .set hstrategy,
      .set (.text (quotes_quoteChars path)), rfl⟩

lemma ofJson_toJson (s : Settings) : ofJson s.toJson = .ok s.normalized :=
  ofJson_of_holds s.holds_toJson s.describes_entries

lemma toJson_normalized (s : Settings) : s.normalized.toJson = s.toJson := by
  simp only [toJson, members, normalized, StrategySetting.toString_normalized]

def Normal (s : Settings) : Prop := s.normalized = s

lemma normal_iff {s : Settings} : Normal s ↔ s.strategy.normalized = s.strategy := by
  cases s
  simp [Normal, normalized]

lemma normal_of_readStrategy {t r : List Char} {strategy : StrategySetting} {path? : Option String}
    (h : readStrategy t = .ok (strategy, r)) : Normal ⟨strategy, path?⟩ := by
  obtain ⟨⟨raw, u⟩, -, hp⟩ := map_eq_ok.mp h
  cases hp
  exact normal_iff.mpr (StrategySetting.normalized_ofString raw)

lemma normal_default : Normal {} := rfl

lemma normal_of_readList {t r : List Char} {s : Settings} (h : readList t = .ok (s, r)) :
    Normal s := by
  obtain ⟨⟨hasStrategy, t₁⟩, -, h⟩ := bind_eq_ok.mp h
  cases hasStrategy with
  | false =>
    obtain ⟨t₂, -, h⟩ := bind_eq_ok.mp h
    cases h
    exact normal_default
  | true =>
    obtain ⟨⟨strategy, t₂⟩, hstrategy, h⟩ := bind_eq_ok.mp h
    obtain ⟨⟨hasPath, t₃⟩, -, h⟩ := bind_eq_ok.mp h
    cases hasPath with
    | false =>
      obtain ⟨t₄, -, h⟩ := bind_eq_ok.mp h
      cases h
      exact normal_of_readStrategy hstrategy
    | true =>
      obtain ⟨⟨path?, t₄⟩, -, h⟩ := bind_eq_ok.mp h
      obtain ⟨t₅, -, h⟩ := bind_eq_ok.mp h
      cases h
      exact normal_of_readStrategy hstrategy

lemma Describes.normal {es : List Entry} {s : Settings} (h : Describes es s) : Normal s := by
  obtain ⟨strategy?, path?, hstrategy, -, rfl⟩ := h
  refine normal_iff.mpr ?_
  generalize valuesOf strategyKey es = vs at hstrategy
  cases hstrategy with
  | unchanged => rfl
  | set hv =>
    obtain ⟨raw, -, rfl⟩ := hv
    exact StrategySetting.normalized_ofString raw

lemma normal_of_ofFile {path : Option Path} {text : String} {s : Settings}
    (h : ofFile path text = .ok s) : Normal s := by
  obtain ⟨r, hr, -⟩ := ofFile_eq_ok.mp h
  rw [read] at hr
  split at hr
  · simp at hr
  split at hr
  · exact normal_of_readList hr
  split at hr
  · obtain ⟨ms, es, c, -, -, hs, -⟩ := readObject_eq_ok.mp hr
    exact hs.normal
  · simp at hr

lemma ofFile_of_load {σ : Type} {host : Host (StateM σ)} {path : Path} {before after : σ}
    {s : Settings} (h : (load host path).run before = (.ok s, after)) :
    ∃ text, ofFile (some path) text = .ok s := by
  cases hread : (host.read path).run before with
  | mk content between =>
    rw [load, run_bind_of hread] at h
    cases content with
    | error e => cases h
    | ok content =>
      dsimp only at h
      split at h
      · cases h
      · next text _ => exact ⟨text, (Prod.mk.inj h).1⟩

lemma Normal.merge {file : Settings} (h : Normal file) (invocation : Invocation) :
    Normal (Program.mergeSettings invocation file) := by
  refine normal_iff.mpr ?_
  cases hs : invocation.strategy with
  | none => simpa [Program.mergeSettings, hs] using normal_iff.mp h
  | some raw => simpa [Program.mergeSettings, hs] using StrategySetting.normalized_ofString raw

lemma Obtained.normal {s : Settings} (h : Obtained s) : Normal s := by
  induction h with
  | parsed h => exact normal_of_ofFile h
  | loaded host path h =>
    obtain ⟨text, htext⟩ := ofFile_of_load h
    exact normal_of_ofFile htext
  | unset => exact normal_default
  | merged invocation _ ih => exact ih.merge invocation

/-- Settings survive being written and read back, up to the names of strategies; those that the
program holds survive as they are, and are told apart by what is written. -/
theorem settings_round_trip :
    (∀ s : Settings, ofJson s.toJson = .ok s.normalized ∧ s.normalized.toJson = s.toJson) ∧
    (∀ s, Obtained s → ofJson s.toJson = .ok s) ∧
    ∀ s s', Obtained s → Obtained s' → s.toJson = s'.toJson → s = s' := by
  have hback (s : Settings) (h : Obtained s) : ofJson s.toJson = .ok s := by
    rw [ofJson_toJson, h.normal]
  refine ⟨fun s => ⟨s.ofJson_toJson, s.toJson_normalized⟩, hback, ?_⟩
  intro s s' h h' heq
  have hs := hback s h
  rw [heq, hback s' h'] at hs
  cases hs
  rfl

theorem settings_round_trip_merged :
    let s := Program.mergeSettings
      { strategy := some "path", executablePath := some "C:\\\"\n\x01" } {}
    s = ⟨.known .path, some "C:\\\"\n\x01"⟩ ∧ ofJson s.toJson = .ok s :=
  ⟨rfl, settings_round_trip.2.1 _ (.merged _ .unset)⟩

end Settings

end Locator
