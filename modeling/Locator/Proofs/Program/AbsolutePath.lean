import Locator.Proofs.Path.Bundled
import Locator.Proofs.Program.Trust
import Locator.Proofs.Search.FirstMatch
import Locator.Proofs.Text.Utf8

namespace Locator

lemma Path.isAbsolute_ofString (raw : String) :
    (Path.ofString raw).isAbsolute = true ↔ raw.toList.head? = some '/' := by
  rw [Path.isAbsolute, Path.ofString, Utf8.encode, beq_iff_eq]
  cases raw.toList with
  | nil => decide
  | cons c cs =>
    have hslash : c = '/' ↔ c.toNat = Path.slash.toNat := by
      rw [← Char.toNat_inj]
      rfl
    rw [List.flatMap_cons, List.head?_cons, Option.some.injEq, hslash]
    have hcode : Path.slash.toNat = 0x2f := rfl
    have hform := Utf8.form_utf8EncodeChar c
    generalize String.utf8EncodeChar c = bytes at hform
    -- only the form of one byte has a first byte below 0x80
    cases hform <;>
      simp only [List.cons_append, List.head?_cons, Option.some.injEq, ← UInt8.toNat_inj] <;> omega

lemma bundledPath_isAbsolute {root : Path} (h : root.isAbsolute = true) (platform : Platform) :
    (bundledPath root platform).isAbsolute = true := by
  rw [isAbsolute_bundledPath, h]

lemma World.isAbsolute_workingDirectory {w : World} {path : Path}
    (h : w.host.workingDirectory = .ok path) : path.isAbsolute = true := by
  have hpath : w.workingDirectory = .ok path := h
  rw [World.workingDirectory] at hpath
  split at hpath
  · cases hpath
  · cases hpath
    rw [World.pathOf]
    cases w.cwd with
    | nil => rfl
    | cons name rest => rfl

namespace Search

lemma candidate_of_find {host : Host Id} {env : Environment} {name : String} {path : Path}
    (hname : LookedUp name) {t : Trace}
    (h : ((Trace.find host env .process name).run t).1 = some path) :
    ∃ directories entries entry, env.get? "PATH" = some directories ∧
      Lists directories entries ∧ entry ∈ entries ∧ path = candidate env.home name entry := by
  rw [Trace.run_find, find_of_lookedUp hname] at h
  obtain ⟨directories, hdirectories, hfirst⟩ := Option.bind_eq_some_iff.mp h
  obtain ⟨entry, hentry, rfl⟩ := List.mem_map.mp (List.mem_of_find?_eq_some hfirst)
  exact ⟨directories, _, entry, hdirectories, lists_iff.mpr rfl, hentry, rfl⟩

end Search

namespace Program

variable {host : Host Id} {env filled : Environment} {words : List Bytes}
  {invocation : Invocation} {p : Plan} {r : Resolution}

def Finds (host : Host Id) (env : Environment) (words : List Bytes) (filled : Environment)
    (p : Plan) (r : Resolution) : Prop :=
  ∃ invocation, EnvironmentFile.load? host env = some filled ∧
    CommandLine.read filled words = .ok invocation ∧ ¬LogFilter.Cut filled ∧
    invocation.command.getD .resolve = .resolve ∧ plan host invocation = .ok p ∧
    outcome host filled p = .ok r

lemma visible_of_finds (h : Finds host env words filled p r) :
    visible (run host env words) = (0, r.path.display ++ "\n") := by
  obtain ⟨invocation, hload, hread, huncut, hcommand, hp, houtcome⟩ := h
  rw [run_of_load hload, visible_resolving hread huncut hp hcommand, houtcome]

lemma config_of_plan (h : plan host invocation = .ok p) :
    p.config.platform = .current ∧ ∃ root, absolute host root = .ok p.config.extensionRoot := by
  rw [plan_eq] at h
  split at h
  · cases h
  · next root hroot =>
    split at h
    · cases h
    · split at h
      · cases h
      · next made habsolute =>
        cases h
        exact ⟨rfl, root, habsolute⟩

lemma isAbsolute_of_absolute
    (hdirectory : ∀ path, host.workingDirectory = .ok path → path.isAbsolute = true)
    {root made : Path} (h : absolute host root = .ok made) : made.isAbsolute = true := by
  rw [absolute_eq] at h
  split at h
  · next hroot =>
    cases h
    exact hroot
  · cases hd : host.workingDirectory with
    | error e =>
      rw [hd] at h
      cases h
    | ok path =>
      rw [hd] at h
      cases h
      rw [Path.isAbsolute_join, hdirectory path hd, Bool.true_or]

lemma source_of_outcome (h : outcome host filled p = .ok r) :
    match r.source with
    | .bundled => r.path = p.config.bundledPath
    | .explicit => ∃ raw, p.request.explicitPath = some raw ∧ r.path = .ofString raw
    | .environment => ∃ t, ((Trace.find host filled .process
        p.config.platform.binaryName).run t).1 = some r.path := by
  obtain ⟨t, hlookup⟩ := Probe.lookup_of_resolve h
  obtain ⟨path, source⟩ := r
  cases source with
  | bundled => exact (Probe.lookupBundled_eq_some hlookup).1
  | explicit =>
    obtain ⟨raw, hraw, hpath, -⟩ := Probe.lookupExplicit_eq_some hlookup
    exact ⟨raw, hraw, hpath⟩
  | environment => exact ⟨t, Probe.lookupEnvironment_eq_some hlookup⟩

/-- The bundled path is absolute. A configured path is taken as it is written, so that it is
absolute when it begins with a slash. A path that is found by searching lies in the directory of
some entry, and is absolute when that entry is, or when it is below a home directory that is. -/
theorem absolute_by_source (w : World) (words : List Bytes) (filled : Environment) (p : Plan)
    (r : Resolution) (h : Finds w.host w.environment words filled p r) :
    (r.source = .bundled → r.path.isAbsolute = true) ∧
    (r.source = .explicit → ∃ raw, p.request.explicitPath = some raw ∧ r.path = .ofString raw ∧
      (r.path.isAbsolute = true ↔ raw.toList.head? = some '/')) ∧
    (r.source = .environment → ∃ directories entries entry,
      filled.get? "PATH" = some directories ∧ Search.Lists directories entries ∧
      entry ∈ entries ∧ r.path = Search.candidate filled.home Platform.current.binaryName entry ∧
      ((Path.mk entry).isAbsolute = true ∨
        Search.Homeward ⟨entry⟩ ∧ filled.home.isAbsolute = true → r.path.isAbsolute = true)) := by
  obtain ⟨invocation, -, -, -, -, hplan, houtcome⟩ := h
  obtain ⟨hplatform, root, hroot⟩ := config_of_plan hplan
  have hsource := source_of_outcome houtcome
  obtain ⟨path, source⟩ := r
  cases source with
  | bundled =>
    obtain rfl : path = p.config.bundledPath := hsource
    have habsolute := isAbsolute_of_absolute (fun _ => World.isAbsolute_workingDirectory) hroot
    exact ⟨fun _ => bundledPath_isAbsolute habsolute _, nofun, nofun⟩
  | explicit =>
    obtain ⟨raw, hraw, hpath⟩ := hsource
    obtain rfl : path = .ofString raw := hpath
    exact ⟨nofun, fun _ => ⟨raw, hraw, rfl, Path.isAbsolute_ofString raw⟩, nofun⟩
  | environment =>
    obtain ⟨t, hfind⟩ := hsource
    rw [hplatform] at hfind
    obtain ⟨directories, entries, entry, hdirectories, hlists, hentry, hpath⟩ :=
      Search.candidate_of_find (by decide) hfind
    obtain rfl : path = _ := hpath
    exact ⟨nofun, nofun, fun _ => ⟨directories, entries, entry, hdirectories, hlists, hentry, rfl,
      Search.isAbsolute_candidate _⟩⟩

lemma finds_bundled (hload : EnvironmentFile.load? host env = some filled)
    (hread : CommandLine.read filled words = .ok invocation) (huncut : ¬LogFilter.Cut filled)
    (hcommand : invocation.command.getD .resolve = .resolve) (hplan : plan host invocation = .ok p)
    (ht : p.request.trusted = false) (hpresent : host.isPresent p.config.bundledPath = true) :
    Finds host env words filled p ⟨p.config.bundledPath, .bundled⟩ := by
  refine ⟨invocation, hload, hread, huncut, hcommand, hplan, ?_⟩
  rw [outcome_untrusted ht, hpresent]
  rfl

theorem absolute_by_source_relative_root :
    let words := [Utf8.encode "--extension-root=x"]
    let p : Plan := ⟨⟨.ofString "/x", .current⟩, ⟨false, default, none⟩⟩
    let r : Resolution := ⟨p.config.bundledPath, .bundled⟩
    Finds World.sample.host {} words {} p r ∧ r.path.isAbsolute = true := by
  intro words p r
  let invocation : Invocation := { extensionRoot := some (.ofString "x") }
  have hplan : plan World.sample.host invocation = .ok p := rfl
  have hfinds : Finds World.sample.host {} words {} p r :=
    finds_bundled (World.load?_sample {}) (by decide +kernel)
      (LogFilter.not_cut_of_unset rfl) rfl hplan rfl (show (_ : Bool) = true by decide +kernel)
  exact ⟨hfinds, (absolute_by_source World.sample words {} p r hfinds).1 rfl⟩

lemma outcome_searched {path : Path} (ht : p.request.trusted = true)
    (hs : p.request.strategy = .known .environment)
    (hfind : Search.find host env .process p.config.platform.binaryName = .ok path) :
    outcome host env p = .ok ⟨path, .environment⟩ := by
  have hfound : Search.find host env .process p.config.platform.binaryName =
      (pure (.ok path) : Id _) := hfind
  simp only [outcome, Probe.resolve, ht, hs, if_true, Probe.resolveEnvironment,
    Probe.lookupEnvironment, Probe.select, Trace.probe, Trace.find, hfound]
  rfl

def bare : World where
  tree := ⟨[([Utf8.encode "jarl"], .file 0o755 [])]⟩

/-- A configured path that is relative, and an empty entry of the search path. -/
theorem relative_paths_found :
    let args := ["--extension-root=/x", "--trusted"]
    let searching : Environment := { entries := [("PATH", [])] }
    (let words := (args ++ ["--strategy=path", "--executable-path=jarl"]).map Utf8.encode
     let p : Plan := ⟨⟨.ofString "/x", .current⟩, ⟨true, .known .path, some "jarl"⟩⟩
     let r : Resolution := ⟨.ofString "jarl", .explicit⟩
     Finds bare.host {} words {} p r ∧ r.path.isAbsolute = false ∧
       visible (run bare.host {} words) = (0, "jarl\n")) ∧
    (let words := (args ++ ["--strategy=environment"]).map Utf8.encode
     let p : Plan := ⟨⟨.ofString "/x", .current⟩, ⟨true, .known .environment, none⟩⟩
     let r : Resolution := ⟨.ofString "jarl", .environment⟩
     Finds bare.host searching words searching p r ∧ r.path.isAbsolute = false ∧
       visible (run bare.host searching words) = (0, "jarl\n")) := by
  intro args searching
  have hload (env : Environment) : EnvironmentFile.load? bare.host env = some env := by
    with_unfolding_all rfl
  have hprinted {env : Environment} {words : List Bytes} {filled : Environment} {p : Plan}
      {source : Source} (h : Finds bare.host env words filled p ⟨.ofString "jarl", source⟩) :
      visible (run bare.host env words) = (0, "jarl\n") := by
    have hdisplay : (Path.ofString "jarl").display = "jarl" := Utf8.display_encode "jarl"
    rw [visible_of_finds h, hdisplay]
    rfl
  refine ⟨?_, ?_⟩
  · intro words p r
    have hfinds : Finds bare.host {} words {} p r := by
      refine ⟨{ extensionRoot := some (.ofString "/x"), trusted := true, strategy := some "path"
                executablePath := some "jarl" }, hload _, by decide +kernel,
        LogFilter.not_cut_of_unset rfl, rfl, rfl, ?_⟩
      exact outcome_explicit rfl rfl rfl (by decide) (rfl)
    exact ⟨hfinds, by decide, hprinted hfinds⟩
  · intro words p r
    have hfinds : Finds bare.host searching words searching p r := by
      refine ⟨{ extensionRoot := some (.ofString "/x"), trusted := true
                strategy := some "environment" }, hload _, by decide +kernel,
        LogFilter.not_cut_of_unset rfl, rfl, rfl, ?_⟩
      exact outcome_searched rfl rfl (show (_ : Except SearchMiss Path) = _ by decide +kernel)
    exact ⟨hfinds, by decide, hprinted hfinds⟩

end Program

end Locator
