import Locator.Proofs.Path.Components
import Locator.Proofs.Program.Stages
import Locator.Proofs.Resolver.Plan
import Locator.Proofs.Search.Entries
import Locator.World

namespace Locator

namespace Probe

variable {τ : Type}

/-- What `probe` says is there is good: a path that is present, and one that a search for `name`
finds. -/
structure Vouches (probe : Probe (StateM τ)) (name : String) (Good : Source → Path → Prop) :
    Prop where
  bundled : ∀ path t, ((probe.isPresent path).run t).1 = true → Good .bundled path
  explicit : ∀ path t, ((probe.isPresent path).run t).1 = true → Good .explicit path
  environment : ∀ path t, ((probe.findCommand name).run t).1 = some path → Good .environment path

variable {probe : Probe (StateM τ)} {config : Config} {request : Request}
  {Good : Source → Path → Prop}

lemma Vouches.lookup (h : probe.Vouches config.platform.binaryName Good) {t : τ} {source : Source}
    {path : Path} (hr : ((probe.lookup config request source).run t).1 = some path) :
    Good source path := by
  cases source with
  | bundled => exact h.bundled path t (lookupBundled_eq_some hr).2
  | environment => exact h.environment path t (lookupEnvironment_eq_some hr)
  | explicit =>
    obtain ⟨raw, -, -, hpresent⟩ := lookupExplicit_eq_some hr
    exact h.explicit path t hpresent

lemma Vouches.resolve (h : probe.Vouches config.platform.binaryName Good) {t : τ}
    {r : Resolution} (hr : ((probe.resolve config request).run t).1 = .ok r) :
    Good r.source r.path := by
  obtain ⟨t', hlookup⟩ := lookup_of_resolve hr
  exact h.lookup hlookup

end Probe

namespace Search

lemma mem_of_find {host : Host Id} {env : Environment} {search : SearchPath} {name : String}
    {path : Path} (h : find host env search name = .ok path) :
    host.isExecutable path = true ∧ ∃ directories base paths,
      candidates? env.home directories base (.ofString name) = some paths ∧ path ∈ paths := by
  have hfound := find_eq_find? host env search name
  rw [h] at hfound
  obtain ⟨paths, hpaths, hfirst⟩ := Option.bind_eq_some_iff.mp hfound.symm
  exact ⟨List.find?_some hfirst, _, _, paths, hpaths, List.mem_of_find?_eq_some hfirst⟩

lemma components_of_candidate {home : Path} {directories : Option Bytes} {base : Option Path}
    {name : Bytes} {paths : List Path} {path : Path} (hn : Path.IsName name)
    (hc : candidates? home directories base ⟨name⟩ = some paths) (hp : path ∈ paths) :
    path.components.getLast? = some (.normal name) := by
  have hjoined : ∃ directory : Path, path = directory.join ⟨name⟩ := by
    unfold candidates? at hc
    split at hc
    · cases hc
      exact ⟨_, List.mem_singleton.mp hp⟩
    · obtain ⟨ds, -, rfl⟩ := Option.map_eq_some_iff.mp hc
      obtain ⟨entry, -, rfl⟩ := List.mem_map.mp hp
      exact ⟨_, rfl⟩
  obtain ⟨directory, rfl⟩ := hjoined
  simp [Path.components_join directory hn]

end Search

namespace World

variable (w : World)

lemma isPresent_iff {path : Path} :
    w.host.isPresent path = true ↔ ∃ status, w.tree.status w.cwd path = .ok status := by
  have hstatus : w.host.status path = w.tree.status w.cwd path := rfl
  rw [Host.isPresent, hstatus]
  cases w.tree.status w.cwd path with
  | ok status => exact iff_of_true rfl ⟨status, rfl⟩
  | error e => exact iff_of_false Bool.false_ne_true (by simp)

lemma isExecutable_iff {path : Path} :
    w.host.isExecutable path = true ↔ w.tree.status w.cwd path = .ok (.file true) := by
  have hstatus : w.host.status path = w.tree.status w.cwd path := rfl
  rw [Host.isExecutable, hstatus]
  rcases w.tree.status w.cwd path with _ | _ | executable
  · exact iff_of_false Bool.false_ne_true (by simp)
  · exact iff_of_false Bool.false_ne_true (by simp)
  · change executable = true ↔ _
    simp

lemma status_eq_executable {path : Path} :
    w.tree.status w.cwd path = .ok (.file true) ↔
      ∃ mode content, w.tree.find w.cwd path = .ok (.file mode content) ∧ mode &&& 0o111 ≠ 0 := by
  unfold FileTree.status
  rcases w.tree.find w.cwd path with e | _ | ⟨mode, content⟩ | _ <;>
    simp [Except.map, FileTree.Node.status, FileTree.executable]

lemma exists_node_of_isPresent {path : Path} (h : w.host.isPresent path = true) :
    ∃ node, w.tree.find w.cwd path = .ok node := by
  obtain ⟨status, hstatus⟩ := w.isPresent_iff.mp h
  obtain ⟨node, hnode, -⟩ := map_eq_ok.mp hstatus
  exact ⟨node, hnode⟩

def Sound (platform : Platform) (source : Source) (path : Path) : Prop :=
  w.host.isPresent path = true ∧ (source = .environment →
    (∃ mode content, w.tree.find w.cwd path = .ok (.file mode content) ∧ mode &&& 0o111 ≠ 0) ∧
    path.components.getLast? = some (.normal (Utf8.encode platform.binaryName)))

lemma sound_of_find {platform : Platform} (search : SearchPath) {path : Path}
    (h : Search.find w.host w.environment search platform.binaryName = .ok path) :
    w.Sound platform .environment path := by
  obtain ⟨hexecutable, directories, base, paths, hcandidates, hmem⟩ := Search.mem_of_find h
  have hstatus := w.isExecutable_iff.mp hexecutable
  refine ⟨w.isPresent_iff.mpr ⟨_, hstatus⟩, fun _ => ⟨w.status_eq_executable.mp hstatus, ?_⟩⟩
  exact Search.components_of_candidate platform.isName_binaryName hcandidates hmem

lemma vouches (platform : Platform) (search : SearchPath) (sink : Sink) :
    (Trace.probe w.host w.environment search sink).Vouches platform.binaryName
      (w.Sound platform) where
  bundled path t h := ⟨h, by simp⟩
  explicit path t h := ⟨h, by simp⟩
  environment path t h := by
    apply w.sound_of_find search
    have hfound : (Id.run (Search.find w.host w.environment search platform.binaryName)).toOption =
        some path := (Trace.run_find w.host w.environment search platform.binaryName t).symm.trans h
    cases hf : Search.find w.host w.environment search platform.binaryName with
    | ok found =>
      rw [hf] at hfound
      cases hfound
      rfl
    | error cause =>
      rw [hf] at hfound
      cases hfound

/-- A resolved path exists in the very state it was resolved in: it leads to something in the file
tree, and one that comes from a search
path names, once links are followed, a regular file of the expected name that can be executed. -/
theorem resolved_path_exists (config : Config) (request : Request) (search : SearchPath)
    (sink : Sink) (t : Trace) (r : Resolution)
    (h : (((Trace.probe w.host w.environment search sink).resolve config request).run t).1 =
      .ok r) :
    w.host.isPresent r.path = true ∧ (∃ node, w.tree.find w.cwd r.path = .ok node) ∧
    (r.source = .environment →
      (∃ mode content, w.tree.find w.cwd r.path = .ok (.file mode content) ∧
        mode &&& 0o111 ≠ 0) ∧
      r.path.components.getLast? =
        some (.normal (Utf8.encode config.platform.binaryName))) := by
  obtain ⟨hpresent, hfile⟩ := (w.vouches config.platform search sink).resolve h
  exact ⟨hpresent, w.exists_node_of_isPresent hpresent, hfile⟩

/-- The only directory on the search path is `~/b`, and what it has is a link through another link
to a program at `/p`. -/
def linked : World where
  tree := ⟨[([[0x68]], .directory), ([[0x68], [0x62]], .directory),
    ([[0x68], [0x62], Utf8.encode "jarl"], .link (.ofString "../l")),
    ([[0x68], [0x6c]], .link (.ofString "/p")), ([[0x70]], .file 0o100 [])]⟩
  environment := { entries := [("HOME", Utf8.encode "/h"), ("PATH", Utf8.encode ":~/b")] }

theorem resolved_path_exists_linked :
    let r : Resolution := ⟨.ofString "/h/b/jarl", .environment⟩
    (((Trace.probe linked.host linked.environment .process .keep).resolve
      ⟨.ofString "/x", .unix⟩ ⟨true, .known .environment, none⟩).run {}).1 = .ok r ∧
    linked.host.isPresent r.path = true ∧
    ∃ mode content, linked.tree.find linked.cwd r.path = .ok (.file mode content) ∧
      mode &&& 0o111 ≠ 0 := by
  intro r
  have hfind : Search.find linked.host linked.environment .process "jarl" =
      .ok (.ofString "/h/b/jarl") := rfl
  have h : (((Trace.probe linked.host linked.environment .process .keep).resolve
      ⟨.ofString "/x", .unix⟩ ⟨true, .known .environment, none⟩).run {}).1 = .ok r := by
    simp only [Probe.resolve, if_true, Probe.resolveEnvironment, Probe.lookupEnvironment,
      Platform.binaryName, Trace.probe, Trace.find, hfind]
    rfl
  obtain ⟨hpresent, -, hfile⟩ := linked.resolved_path_exists _ _ _ _ _ r h
  exact ⟨h, hpresent, (hfile rfl).1⟩

end World

end Locator
