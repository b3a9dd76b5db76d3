import Locator.Proofs.CommandLine.Sources
import Locator.Proofs.Program.Configuration
import Locator.Proofs.Settings.Format
import Locator.World

/-! The words decide, then the variable, then the settings, then the default. -/

namespace Locator

namespace CommandLine

/-- A value that is written last among the words, or else held by a variable, or else `fallback`. -/
inductive Decides {α : Type} (means : Bytes → α → Prop) (written : List Bytes)
    (held : Option Bytes) (fallback : α) : α → Prop
  | written {earlier : List Bytes} {raw : Bytes} {value : α} :
      written = earlier ++ [raw] → means raw value → Decides means written held fallback value
  | held {raw : Bytes} {value : α} :
      written = [] → held = some raw → means raw value → Decides means written held fallback value
  | fallback : written = [] → held = none → Decides means written held fallback fallback

namespace Decides

variable {α : Type} {means : Bytes → α → Prop} {earlier : List Bytes} {raw : Bytes}
  {held : Option Bytes} {fallback value : α}

lemma of_written (h : Decides means (earlier ++ [raw]) held fallback value) : means raw value := by
  cases h with
  | written hwritten hmeans =>
    obtain ⟨-, hraw⟩ := List.append_inj' hwritten rfl
    cases hraw
    exact hmeans
  | held hnone => exact absurd hnone (by simp)
  | fallback hnone => exact absurd hnone (by simp)

lemma of_held (h : Decides means [] (some raw) fallback value) : means raw value := by
  cases h with
  | written hwritten => exact absurd hwritten (by simp)
  | held _ hraw hmeans =>
    cases hraw
    exact hmeans
  | fallback _ hnone => cases hnone

lemma of_nothing (h : Decides means [] none fallback value) : value = fallback := by
  cases h with
  | written hwritten => exact absurd hwritten (by simp)
  | held _ hraw => cases hraw
  | fallback => rfl

end Decides

/-- Yes and no, in capitals or small letters. -/
inductive MeansSwitch (raw : Bytes) : Bool → Prop
  | yes {text : String} : raw = Utf8.encode text →
      text.toList.map Char.toLower ∈ ["y", "yes", "t", "true", "on", "1"].map String.toList →
      MeansSwitch raw true
  | no {text : String} : raw = Utf8.encode text →
      text.toList.map Char.toLower ∈ ["n", "no", "f", "false", "off", "0"].map String.toList →
      MeansSwitch raw false

lemma readText_eq_ok {raw : Bytes} {text : String} :
    readText raw = .ok text ↔ raw = Utf8.encode text := by
  rw [← Utf8.decode?_eq_some, readText]
  cases Utf8.decode? raw <;> simp

lemma ofList_mem_iff {chars : List Char} {names : List String} :
    names.contains (String.ofList chars) = true ↔ chars ∈ names.map String.toList := by
  rw [List.contains_iff_mem, List.mem_map]
  constructor
  · intro h
    exact ⟨_, h, String.toList_ofList⟩
  · rintro ⟨name, hname, rfl⟩
    rwa [String.ofList_toList]

lemma readSwitch_eq_ok {raw : Bytes} {answer : Bool} :
    readSwitch raw = .ok answer ↔ MeansSwitch raw answer := by
  have hread (text : String) (h : raw = Utf8.encode text) : readSwitch raw =
      if yes.contains (String.ofList (text.toList.map Char.toLower)) then .ok true
      else if no.contains (String.ofList (text.toList.map Char.toLower)) then .ok false
      else .error .notSwitch := by
    rw [readSwitch, readText_eq_ok.mpr h]
    rfl
  constructor
  · intro h
    obtain ⟨text, htext, -⟩ := bind_eq_ok.mp h
    have hraw := readText_eq_ok.mp htext
    rw [hread text hraw] at h
    split at h
    · next hyes =>
      cases h
      exact .yes hraw (ofList_mem_iff.mp hyes)
    · split at h
      · next hno =>
        cases h
        exact .no hraw (ofList_mem_iff.mp hno)
      · cases h
  · intro h
    cases h with
    | @yes text hraw hword =>
      have hyes : yes.contains (String.ofList (text.toList.map Char.toLower)) = true :=
        ofList_mem_iff.mpr hword
      rw [hread text hraw, if_pos hyes]
    | @no text hraw hword =>
      have hno : no.contains (String.ofList (text.toList.map Char.toLower)) = true :=
        ofList_mem_iff.mpr hword
      have hnot : ¬yes.contains (String.ofList (text.toList.map Char.toLower)) = true := by
        intro hyes
        have hdisjoint : ∀ word ∈ no.map String.toList, word ∉ yes.map String.toList := by decide
        exact hdisjoint _ hword (ofList_mem_iff.mp hyes)
      rw [hread text hraw, if_neg hnot, if_pos hno]

variable {α β : Type} {means : Bytes → α → Prop} {value value' : Option α} {source : Option Bytes}
  {read : Bytes → Except UsageError α} {env : Environment} {words : List Bytes} {o : Opt}

lemma decides_of_source (hmeans : ∀ raw a, read raw = .ok a → means raw a)
    (h : value.map .ok = (sourced env words o).map read) (fallback : α) :
    Decides means (o.mentions words) (o.standIn?.bind env.get?) fallback
      (value.getD fallback) := by
  have hsaid {raw : Bytes} (hraw : sourced env words o = some raw) :
      means raw (value.getD fallback) := by
    rw [hraw] at h
    obtain ⟨a, rfl, ha⟩ := Option.map_eq_some_iff.mp h
    exact hmeans raw a ha.symm
  rcases List.eq_nil_or_concat (o.mentions words) with hnil | ⟨earlier, raw, hlast⟩
  · have hsource : sourced env words o = o.standIn?.bind env.get? := by
      rw [sourced, hnil]
      rfl
    cases hheld : o.standIn?.bind env.get? with
    | some raw => exact .held hnil rfl (hsaid (hsource.trans hheld))
    | none =>
      rw [hsource, hheld] at h
      rw [Option.map_eq_none_iff.mp h]
      exact .fallback hnil rfl
  · rw [List.concat_eq_append] at hlast
    refine .written hlast (hsaid ?_)
    rw [sourced, hlast, List.getLast?_concat]
    rfl

lemma map_source (f : α → β) (h : value.map .ok = source.map read) :
    (value.map f).map .ok = source.map fun raw => (read raw).map f := by
  have hmap := congrArg (Option.map (Except.map f)) h
  rw [Option.map_map, Option.map_map] at hmap
  rw [Option.map_map]
  exact hmap

lemma eq_of_source (h : value.map .ok = source.map read) (h' : value'.map .ok = source.map read) :
    value = value' :=
  Option.map_injective (fun _ _ => Except.ok.inj) (h.trans h'.symm)

lemma path_of_source {path : Option Path} (h : path.map .ok = source.map readPath) :
    path = source.map Path.mk := by
  cases source with
  | none => exact Option.map_eq_none_iff.mp h
  | some raw =>
    obtain ⟨a, rfl, ha⟩ := Option.map_eq_some_iff.mp h
    unfold readPath at ha
    split at ha
    · cases ha
    · cases ha
      rfl

lemma Opt.exists_mentions_append (o : Opt) (before rest : List Bytes) :
    ∃ earlier, o.mentions (before ++ rest) = earlier ++ o.mentions rest := by
  induction before with
  | nil => exact ⟨[], rfl⟩
  | cons word before ih =>
    obtain ⟨earlier, hearlier⟩ := ih
    refine ⟨(o.mention? word (before ++ rest)).toList ++ earlier, ?_⟩
    rw [List.cons_append, mentions, hearlier, List.append_assoc]

lemma sourced_bare {before after : List Bytes}
    (h : words = before ++ Utf8.encode "--trusted" :: after)
    (hlast : Opt.trusted.mentions after = []) :
    sourced env words .trusted = some (Utf8.encode "true") := by
  have hflag : Opt.trusted.mentions (Utf8.encode "--trusted" :: after) = [Utf8.encode "true"] := by
    have hmention : Opt.trusted.mention? (Utf8.encode "--trusted") after =
        some (Utf8.encode "true") := rfl
    rw [Opt.mentions, hmention, hlast]
    rfl
  obtain ⟨earlier, hearlier⟩ :=
    Opt.trusted.exists_mentions_append before (Utf8.encode "--trusted" :: after)
  rw [sourced, h, hearlier, hflag, List.getLast?_concat]
  rfl

end CommandLine

namespace Program

open CommandLine (Opt Decides MeansSwitch sourced readText readSwitch)

/-- A request, field by field. Whether the workspace is trusted is not for the settings to say. -/
structure ByPrecedence (env : Environment) (words : List Bytes) (file : Settings)
    (request : Request) : Prop where
  strategy : Decides (fun raw value => ∃ text, raw = Utf8.encode text ∧ value = .ofString text)
    (Opt.strategy.mentions words) (env.get? "JARL_EXECUTABLE_STRATEGY") file.strategy
    request.strategy
  explicitPath : Decides (fun raw value => ∃ text, raw = Utf8.encode text ∧ value = some text)
    (Opt.executablePath.mentions words) (env.get? "JARL_EXECUTABLE_PATH") file.executablePath
    request.explicitPath
  trusted : Decides MeansSwitch (Opt.trusted.mentions words) (env.get? "JARL_WORKSPACE_TRUSTED")
    false request.trusted
  flag : ∀ before after, words = before ++ Utf8.encode "--trusted" :: after →
    Opt.trusted.mentions after = [] → request.trusted = true

def GivesRoot (env : Environment) (words : List Bytes) : Option Bytes → Prop :=
  Decides (fun raw value => value = some raw) (Opt.extensionRoot.mentions words)
    (env.get? "JARL_EXTENSION_ROOT") none

/-- The root of a plan: the one that is given when that begins with a slash, or else the working
directory joined with it. -/
inductive Rooted (host : Host Id) (env : Environment) (words : List Bytes) :
    Except ProgramError Path → Prop
  | missing : GivesRoot env words none → Rooted host env words (.error rootMissing)
  | given {raw : Bytes} : GivesRoot env words (some raw) → raw.head? = some Path.slash →
      Rooted host env words (.ok ⟨raw⟩)
  | joined {raw : Bytes} {directory : Path} : GivesRoot env words (some raw) →
      raw.head? ≠ some Path.slash → host.workingDirectory = .ok directory →
      Rooted host env words (.ok (directory.join ⟨raw⟩))
  | adrift {raw : Bytes} {e : FileError} : GivesRoot env words (some raw) →
      raw.head? ≠ some Path.slash → host.workingDirectory = .error e →
      Rooted host env words (.error (noWorkingDirectory e))

variable {host : Host Id} {env : Environment} {words : List Bytes} {invocation : Invocation}
  {file : Settings}

lemma decides_trusted (hread : CommandLine.read env words = .ok invocation) :
    Decides MeansSwitch (Opt.trusted.mentions words) (env.get? "JARL_WORKSPACE_TRUSTED") false
      invocation.trusted := by
  obtain ⟨options, command, rfl, hslots⟩ := CommandLine.read_eq_ok hread
  exact CommandLine.decides_of_source (fun _ _ => CommandLine.readSwitch_eq_ok.mp)
    (hslots .trusted) false

lemma byPrecedence_of_read (hread : CommandLine.read env words = .ok invocation)
    (file : Settings) :
    ByPrecedence env words file
      ((mergeSettings invocation file).toRequest invocation.trusted) := by
  have htrusted := decides_trusted hread
  obtain ⟨options, command, rfl, hslots⟩ := CommandLine.read_eq_ok hread
  have htext {α : Type} (f : String → α) (raw : Bytes) (a : α)
      (h : (readText raw).map f = .ok a) : ∃ text, raw = Utf8.encode text ∧ a = f text := by
    obtain ⟨text, hread, rfl⟩ := map_eq_ok.mp h
    exact ⟨text, CommandLine.readText_eq_ok.mp hread, rfl⟩
  have hpath : (options.executablePath.map some).getD file.executablePath =
      (options.executablePath <|> file.executablePath) := by
    cases options.executablePath <;> rfl
  refine ⟨?_, ?_, htrusted, ?_⟩
  · exact CommandLine.decides_of_source (htext StrategySetting.ofString)
      (CommandLine.map_source StrategySetting.ofString (hslots .strategy)) file.strategy
  · change Decides _ _ _ _ (options.executablePath <|> file.executablePath)
    rw [← hpath]
    exact CommandLine.decides_of_source (htext some)
      (CommandLine.map_source some (hslots .executablePath)) file.executablePath
  · intro before after hwords hlast
    have hsource := hslots .trusted
    change options.trusted.map .ok = (sourced env words .trusted).map readSwitch at hsource
    rw [CommandLine.sourced_bare hwords hlast] at hsource
    obtain ⟨answer, hanswer, hsaid⟩ := Option.map_eq_some_iff.mp hsource
    have htrue : readSwitch (Utf8.encode "true") = .ok true := by decide +kernel
    cases hsaid.trans htrue
    change options.trusted.getD false = true
    rw [hanswer]
    rfl

lemma paths_of_read (hread : CommandLine.read env words = .ok invocation) :
    invocation.extensionRoot = (sourced env words .extensionRoot).map .mk ∧
      invocation.settings = (Opt.settings.mentions words).getLast?.map .mk := by
  obtain ⟨options, command, rfl, hslots⟩ := CommandLine.read_eq_ok hread
  have hsettings : sourced env words .settings = (Opt.settings.mentions words).getLast? :=
    Option.or_none
  rw [← hsettings]
  exact ⟨CommandLine.path_of_source (hslots .extensionRoot),
    CommandLine.path_of_source (hslots .settings)⟩

lemma givesRoot_sourced (env : Environment) (words : List Bytes) :
    GivesRoot env words (sourced env words .extensionRoot) := by
  let read (raw : Bytes) : Except CommandLine.UsageError (Option Bytes) := .ok (some raw)
  have hsource : ((sourced env words .extensionRoot).map some).map .ok =
      (sourced env words .extensionRoot).map read := Option.map_map ..
  have hmeans (raw : Bytes) (value : Option Bytes) (h : read raw = .ok value) : value = some raw :=
    (Except.ok.inj h).symm
  have hdecides := CommandLine.decides_of_source hmeans hsource none
  cases hs : sourced env words .extensionRoot with
  | none =>
    rw [hs] at hdecides
    exact hdecides
  | some raw =>
    rw [hs] at hdecides
    exact hdecides

lemma rooted_of_given {raw : Bytes} (h : GivesRoot env words (some raw)) :
    Rooted host env words (absolute host ⟨raw⟩) := by
  rw [absolute_eq]
  split
  · next hslash => exact .given h (beq_iff_eq.mp hslash)
  · next hslash =>
    have hrelative : raw.head? ≠ some Path.slash := fun hhead => hslash (beq_iff_eq.mpr hhead)
    cases hd : host.workingDirectory with
    | ok directory => exact .joined h hrelative hd
    | error e => exact .adrift h hrelative hd

lemma plan_of_read (hread : CommandLine.read env words = .ok invocation)
    (hload : loadSettings host ((Opt.settings.mentions words).getLast?.map .mk) = .ok file) :
    plan host invocation =
      match sourced env words .extensionRoot with
      | none => .error rootMissing
      | some raw => (absolute host ⟨raw⟩).map fun root =>
          ⟨⟨root, .current⟩, (mergeSettings invocation file).toRequest invocation.trusted⟩ := by
  obtain ⟨hroot, hsettings⟩ := paths_of_read hread
  rw [← hsettings] at hload
  rw [plan_eq, hload, hroot]
  cases sourced env words .extensionRoot with
  | none => rfl
  | some raw =>
    dsimp only [Option.map_some]
    cases absolute host ⟨raw⟩ <;> rfl

lemma rooted_of_read (hread : CommandLine.read env words = .ok invocation)
    (hload : loadSettings host ((Opt.settings.mentions words).getLast?.map .mk) = .ok file) :
    ∃ root, Rooted host env words root ∧ plan host invocation = root.map fun root =>
      ⟨⟨root, .current⟩, (mergeSettings invocation file).toRequest invocation.trusted⟩ := by
  have hgiven := givesRoot_sourced env words
  rw [plan_of_read hread hload]
  cases hs : sourced env words .extensionRoot with
  | none =>
    rw [hs] at hgiven
    exact ⟨.error rootMissing, .missing hgiven, rfl⟩
  | some raw =>
    rw [hs] at hgiven
    exact ⟨absolute host ⟨raw⟩, rooted_of_given hgiven, rfl⟩

lemma fields_of_plan {p : Plan} (hread : CommandLine.read env words = .ok invocation)
    (hload : loadSettings host ((Opt.settings.mentions words).getLast?.map .mk) = .ok file)
    (hp : plan host invocation = .ok p) :
    p.request = (mergeSettings invocation file).toRequest invocation.trusted ∧
      p.config.platform = .current ∧ ∃ raw, sourced env words .extensionRoot = some raw ∧
        absolute host ⟨raw⟩ = .ok p.config.extensionRoot := by
  rw [plan_of_read hread hload] at hp
  cases hroot : sourced env words .extensionRoot with
  | none =>
    rw [hroot] at hp
    cases hp
  | some raw =>
    rw [hroot] at hp
    obtain ⟨root, habsolute, rfl⟩ := map_eq_ok.mp hp
    exact ⟨rfl, rfl, raw, rfl, habsolute⟩

lemma options_congr {env' : Environment} {words' : List Bytes} {invocation' : Invocation}
    (hread : CommandLine.read env words = .ok invocation)
    (hread' : CommandLine.read env' words' = .ok invocation') :
    (sourced env words .strategy = sourced env' words' .strategy →
      invocation.strategy = invocation'.strategy) ∧
    (sourced env words .executablePath = sourced env' words' .executablePath →
      invocation.executablePath = invocation'.executablePath) ∧
    (sourced env words .trusted = sourced env' words' .trusted →
      invocation.trusted = invocation'.trusted) := by
  obtain ⟨options, command, rfl, hslots⟩ := CommandLine.read_eq_ok hread
  obtain ⟨options', command', rfl, hslots'⟩ := CommandLine.read_eq_ok hread'
  have hsame {α : Type} (slot : CommandLine.Slot α)
      (hsource : sourced env words slot.opt = sourced env' words' slot.opt) :
      slot.get options = slot.get options' := by
    have h := hslots slot
    rw [hsource] at h
    exact CommandLine.eq_of_source h (hslots' slot)
  refine ⟨hsame .strategy, hsame .executablePath, ?_⟩
  intro hsource
  exact congrArg (Option.getD · false) (hsame .trusted hsource)

lemma absolute_congr {host' : Host Id} (h : host.workingDirectory = host'.workingDirectory)
    (path : Path) : absolute host path = absolute host' path := by
  rw [absolute_eq, absolute_eq, h]

lemma describes_of_load {path : Path} {content : Bytes} {text : String} {es : List Json.Entry}
    (hload : Settings.load host path = .ok file) (hcontent : host.read path = .ok content)
    (htext : Utf8.decode? content = some text) (hes : Json.Holds text.toList es) :
    Settings.Describes es file := by
  have hofFile : Settings.load host path = Settings.ofFile (some path) text := by
    unfold Settings.load
    rw [hcontent]
    refine (pure_bind (m := Id) _ _).trans ?_
    simp only [htext]
    rfl
  rw [hofFile] at hload
  apply (Settings.ofJson_iff_of_holds hes).mp
  exact Settings.ofFile_eq_ok.mpr (Settings.ofFile_eq_ok.mp hload)

/-- A plan is decided field by field. The words may mention an option ahead of the command and
after it; what stands last counts. A file that leaves a field out leaves it at its default. -/
theorem plan_by_precedence (host : Host Id) (env : Environment) (words : List Bytes)
    (invocation : Invocation) (file : Settings)
    (hread : CommandLine.read env words = .ok invocation)
    (hload : loadSettings host ((Opt.settings.mentions words).getLast?.map .mk) = .ok file) :
    (∃ request root, ByPrecedence env words file request ∧ Rooted host env words root ∧
      plan host invocation = root.map fun root => ⟨⟨root, .current⟩, request⟩) ∧
    (Opt.settings.mentions words = [] → file = ⟨.known .bundled, none⟩) ∧
    (∀ raw content text es, (Opt.settings.mentions words).getLast? = some raw →
      host.read ⟨raw⟩ = .ok content → Utf8.decode? content = some text →
      Json.Holds text.toList es → Settings.Describes es file) ∧
    ∀ (host' : Host Id) (env' : Environment) (words' : List Bytes) (invocation' : Invocation)
      (file' : Settings), CommandLine.read env' words' = .ok invocation' →
      loadSettings host' ((Opt.settings.mentions words').getLast?.map .mk) = .ok file' →
      ∀ p p', plan host invocation = .ok p → plan host' invocation' = .ok p' →
      (sourced env words .strategy = sourced env' words' .strategy →
        file.strategy = file'.strategy → p.request.strategy = p'.request.strategy) ∧
      (sourced env words .executablePath = sourced env' words' .executablePath →
        file.executablePath = file'.executablePath →
        p.request.explicitPath = p'.request.explicitPath) ∧
      (sourced env words .trusted = sourced env' words' .trusted →
        p.request.trusted = p'.request.trusted) ∧
      (sourced env words .extensionRoot = sourced env' words' .extensionRoot →
        host.workingDirectory = host'.workingDirectory → p.config = p'.config) := by
  refine ⟨?_, ?_, ?_, ?_⟩
  · obtain ⟨root, hrooted, hplan⟩ := rooted_of_read hread hload
    exact ⟨_, root, byPrecedence_of_read hread file, hrooted, hplan⟩
  · intro hnone
    rw [hnone] at hload
    exact (Except.ok.inj hload).symm
  · intro raw content text es hsettings hcontent htext hes
    rw [hsettings] at hload
    exact describes_of_load hload hcontent htext hes
  · intro host' env' words' invocation' file' hread' hload' p p' hp hp'
    obtain ⟨hrequest, hplatform, raw, hroot, habsolute⟩ := fields_of_plan hread hload hp
    obtain ⟨hrequest', hplatform', raw', hroot', habsolute'⟩ := fields_of_plan hread' hload' hp'
    obtain ⟨hstrategy, hpath, htrusted⟩ := options_congr hread hread'
    rw [hrequest, hrequest']
    refine ⟨?_, ?_, htrusted, ?_⟩
    · intro hsource hfile
      simp only [mergeSettings, Settings.toRequest, hstrategy hsource, hfile]
    · intro hsource hfile
      simp only [mergeSettings, Settings.toRequest, hpath hsource, hfile]
    · intro hsource hdirectory
      rw [hroot, hroot'] at hsource
      cases hsource
      rw [absolute_congr hdirectory, habsolute'] at habsolute
      have hsame := Except.ok.inj habsolute
      cases hc : p.config
      cases hc' : p'.config
      simp_all

lemma ByPrecedence.of_held {request : Request} {text : String}
    (h : ByPrecedence env words file request) (hstrategy : Opt.strategy.mentions words = [])
    (hpath : Opt.executablePath.mentions words = [])
    (hheld : env.get? "JARL_EXECUTABLE_STRATEGY" = some (Utf8.encode text))
    (hunset : env.get? "JARL_EXECUTABLE_PATH" = none) :
    request = ⟨request.trusted, .ofString text, file.executablePath⟩ := by
  have hdecided := h.strategy
  have hleft := h.explicitPath
  rw [hstrategy, hheld] at hdecided
  rw [hpath, hunset] at hleft
  obtain ⟨text', htext, hvalue⟩ := hdecided.of_held
  obtain rfl := Utf8.encode_injective htext
  rw [← hvalue, ← hleft.of_nothing]

lemma Rooted.of_held {root : Except ProgramError Path} {raw : Bytes} {directory : Path}
    (h : Rooted host env words root) (hnone : Opt.extensionRoot.mentions words = [])
    (hheld : env.get? "JARL_EXTENSION_ROOT" = some raw) (hrelative : raw.head? ≠ some Path.slash)
    (hdirectory : host.workingDirectory = .ok directory) :
    root = .ok (directory.join ⟨raw⟩) := by
  have hraw {given : Option Bytes} (hgiven : GivesRoot env words given) : given = some raw := by
    rw [GivesRoot, hnone, hheld] at hgiven
    exact hgiven.of_held
  cases h with
  | missing hgiven => cases hraw hgiven
  | given hgiven hslash =>
    cases hraw hgiven
    exact absurd hslash hrelative
  | joined hgiven _ hjoined =>
    cases hraw hgiven
    cases hdirectory.symm.trans hjoined
    rfl
  | adrift _ _ hadrift => cases hdirectory.symm.trans hadrift

/-- At `/s` are settings with a strategy and no path. -/
def layered : World where
  tree := ⟨[([[0x73]], .file 0o644 (Utf8.encode "[\"environment\"]"))]⟩

/-- A bare flag outdoes a variable that says no, a word that says no outdoes one that says yes, and
with no word the variable decides. -/
theorem plan_by_precedence_layered :
    let env (answer : String) : Environment :=
      { entries := [("JARL_EXTENSION_ROOT", Utf8.encode "x"), ("JARL_EXECUTABLE_STRATEGY", []),
          ("JARL_WORKSPACE_TRUSTED", Utf8.encode answer)] }
    let words (more : List String) := (["--settings", "/s", "candidates"] ++ more).map Utf8.encode
    let planned (answer : String) (more : List String) (trusted : Bool) := ∃ invocation,
      CommandLine.read (env answer) (words more) = .ok invocation ∧
      plan layered.host invocation =
        .ok ⟨⟨.ofString "/x", .current⟩, ⟨trusted, .unrecognized "", none⟩⟩
    planned "off" ["--trusted"] true ∧ planned "on" ["--trusted=No"] false ∧
      planned "YES" [] true := by
  intro env words planned
  have hplanned {answer : String} {more : List String} {trusted : Bool} (raw : Bytes)
      (invocation : Invocation)
      (hread : CommandLine.read (env answer) (words more) = .ok invocation)
      (hsettings : (Opt.settings.mentions (words more)).getLast? = some (Utf8.encode "/s"))
      (hmentions : ∀ o ∈ [Opt.strategy, .executablePath, .extensionRoot],
        o.mentions (words more) = [])
      (hdecided : ∀ value, Decides MeansSwitch (Opt.trusted.mentions (words more))
        (some (Utf8.encode answer)) false value → MeansSwitch raw value)
      (hswitch : readSwitch raw = .ok trusted) : planned answer more trusted := by
    have hfile : loadSettings layered.host (some (.ofString "/s")) =
        .ok ⟨.known .environment, none⟩ := by with_unfolding_all rfl
    have hload : loadSettings layered.host
        ((Opt.settings.mentions (words more)).getLast?.map .mk) =
        .ok ⟨.known .environment, none⟩ := by
      rw [hsettings]
      exact hfile
    obtain ⟨⟨request, root, hfields, hrooted, hplan⟩, -⟩ :=
      plan_by_precedence layered.host (env answer) (words more) invocation _ hread hload
    have hheld : (env answer).get? "JARL_EXECUTABLE_STRATEGY" = some (Utf8.encode "") := rfl
    have hrequest := hfields.of_held (hmentions .strategy (by simp))
      (hmentions .executablePath (by simp)) hheld rfl
    have htrusted : request.trusted = trusted := by
      have hmeans := CommandLine.readSwitch_eq_ok.mpr (hdecided _ hfields.trusted)
      exact Except.ok.inj (hmeans.symm.trans hswitch)
    have hroot : root = .ok (.ofString "/x") := by
      rw [hrooted.of_held (hmentions .extensionRoot (by simp)) rfl (by decide) rfl]
      decide +kernel
    rw [htrusted] at hrequest
    refine ⟨invocation, hread, ?_⟩
    rw [hplan, hroot, hrequest]
    rfl
  let invocation (trusted : Bool) : Invocation :=
    { extensionRoot := some (.ofString "x"), trusted, strategy := some ""
      settings := some (.ofString "/s"), command := some .candidates }
  refine ⟨?_, ?_, ?_⟩
  · apply hplanned (Utf8.encode "true") (invocation true) (by decide +kernel) (by decide +kernel)
      (by decide +kernel) ?_ (by decide +kernel)
    intro value h
    have hwritten : Opt.trusted.mentions (words ["--trusted"]) = [] ++ [Utf8.encode "true"] := by
      decide +kernel
    rw [hwritten] at h
    exact h.of_written
  · apply hplanned (Utf8.encode "No") (invocation false) (by decide +kernel) (by decide +kernel)
      (by decide +kernel) ?_ (by decide +kernel)
    intro value h
    have hwritten : Opt.trusted.mentions (words ["--trusted=No"]) = [] ++ [Utf8.encode "No"] := by
      decide +kernel
    rw [hwritten] at h
    exact h.of_written
  · apply hplanned (Utf8.encode "YES") (invocation true) (by decide +kernel) (by decide +kernel)
      (by decide +kernel) ?_ (by decide +kernel)
    intro value h
    have hwritten : Opt.trusted.mentions (words []) = [] := by decide +kernel
    rw [hwritten] at h
    exact h.of_held

end Program

end Locator
