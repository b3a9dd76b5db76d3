import Locator.Proofs.Search.FirstMatch
import Mathlib.Data.List.Find

namespace Locator

namespace Search

variable {home home₁ home₂ base : Path} {directories : Bytes} {name : String}

def tried (home : Path) (directories : Bytes) (base : Path) (name : String) : List Path :=
  if LookedUp name then (directories.splitOn colon).map (candidate home name)
  else [base.join (.ofString name)]

lemma find_pinned (host : Host Id) (env : Environment) (directories : Bytes) (base : Path)
    (name : String) :
    (Id.run (find host env (.pinned directories base) name)).toOption =
      (tried env.home directories base name).find? host.isExecutable := by
  by_cases h : LookedUp name
  · rw [find_of_lookedUp h, tried, if_pos h]
    rfl
  · have hseveral : decide (1 < (Path.ofString name).components.length) = true :=
      decide_eq_true (Nat.lt_of_not_le h)
    rw [find_eq_find?, tried, if_neg h]
    simp only [SearchPath.base?, candidates?, hseveral, Option.bind_some]

lemma candidate_of_not_homeward {entry : Bytes} (h : ¬Homeward ⟨entry⟩) :
    candidate home name entry = (Path.mk entry).join (.ofString name) := by
  rw [candidate, directory, if_neg h]

lemma tried_congr
    (h : (∃ entry ∈ directories.splitOn colon, Homeward ⟨entry⟩) → home₁ = home₂) :
    tried home₁ directories base name = tried home₂ directories base name := by
  by_cases hhome : ∃ entry ∈ directories.splitOn colon, Homeward ⟨entry⟩
  · rw [h hhome]
  · have hentries : (directories.splitOn colon).map (candidate home₁ name) =
        (directories.splitOn colon).map (candidate home₂ name) := by
      apply List.map_congr_left
      intro entry hentry
      have hnot : ¬Homeward ⟨entry⟩ := fun hentry' => hhome ⟨entry, hentry, hentry'⟩
      rw [candidate_of_not_homeward hnot, candidate_of_not_homeward hnot]
    rw [tried, tried, hentries]

lemma isAbsolute_of_tried (hbase : base.isAbsolute = true)
    (hentries : ∀ entry ∈ directories.splitOn colon, (Path.mk entry).isAbsolute = true)
    {path : Path} (h : path ∈ tried home directories base name) : path.isAbsolute = true := by
  rw [tried] at h
  split at h
  · obtain ⟨entry, hentry, rfl⟩ := List.mem_map.mp h
    exact isAbsolute_candidate name (.inl (hentries entry hentry))
  · obtain rfl := List.mem_singleton.mp h
    rw [Path.isAbsolute_join, hbase, Bool.true_or]

end Search

lemma FileTree.find_of_isAbsolute (tree : FileTree) (cwd₁ cwd₂ : Location) {path : Path}
    (h : path.isAbsolute = true) : tree.find cwd₁ path = tree.find cwd₂ path := by
  simp only [FileTree.find, FileTree.locate, if_pos h]

namespace FileTree

open Search (LookedUp Homeward tried colon)

/-- What a search with its own directories finds, on behalf of a process with the working directory
`cwd` and the variables `env`. -/
def pinnedFind (tree : FileTree) (directories : Bytes) (base : Path) (name : String)
    (cwd : Location) (env : Environment) : Option Path :=
  ((Trace.find (World.mk tree cwd env).host env (.pinned directories base) name).run {}).1

section

variable (tree : FileTree) (directories : Bytes) (base : Path) (name : String)

lemma pinnedFind_eq (cwd : Location) (env : Environment) :
    tree.pinnedFind directories base name cwd env =
      (tried env.home directories base name).find? (World.mk tree cwd env).host.isExecutable := by
  rw [pinnedFind, Trace.run_find, Search.find_pinned]

lemma isExecutable_congr {cwd₁ cwd₂ : Location} {env₁ env₂ : Environment} {path : Path}
    (h : path.isAbsolute = false → cwd₁ = cwd₂) :
    (World.mk tree cwd₁ env₁).host.isExecutable path =
      (World.mk tree cwd₂ env₂).host.isExecutable path := by
  have hfind : tree.find cwd₁ path = tree.find cwd₂ path := by
    cases habsolute : path.isAbsolute with
    | true => exact tree.find_of_isAbsolute cwd₁ cwd₂ habsolute
    | false => rw [h habsolute]
  rw [Bool.eq_iff_iff, World.isExecutable_iff_hasProgram, World.isExecutable_iff_hasProgram]
  simp only [World.HasProgram, hfind]

lemma pinnedFind_congr {cwd₁ cwd₂ : Location} {env₁ env₂ : Environment}
    (hhome : (∃ entry ∈ directories.splitOn colon, Homeward ⟨entry⟩) → env₁.home = env₂.home)
    (hcwd : (∃ path ∈ tried env₁.home directories base name, path.isAbsolute = false) →
      cwd₁ = cwd₂) :
    tree.pinnedFind directories base name cwd₁ env₁ =
      tree.pinnedFind directories base name cwd₂ env₂ := by
  rw [pinnedFind_eq, pinnedFind_eq, ← Search.tried_congr hhome]
  apply List.find?_congr
  intro path hpath
  apply tree.isExecutable_congr
  intro hrelative
  exact hcwd ⟨path, hpath, hrelative⟩

lemma pinnedFind_of_absolute (hbase : base.isAbsolute = true)
    (hentries : ∀ entry ∈ directories.splitOn colon, (Path.mk entry).isAbsolute = true)
    (cwd₁ cwd₂ : Location) (env₁ env₂ : Environment) :
    tree.pinnedFind directories base name cwd₁ env₁ =
      tree.pinnedFind directories base name cwd₂ env₂ := by
  apply tree.pinnedFind_congr
  · rintro ⟨entry, hentry, hhome⟩
    exact absurd hhome (Search.not_homeward_of_isAbsolute (hentries entry hentry))
  · rintro ⟨path, hpath, hrelative⟩
    rw [Search.isAbsolute_of_tried hbase hentries hpath] at hrelative
    cases hrelative

lemma pinnedFind_single (hname : LookedUp name) (hcolon : colon ∉ directories)
    (hhome : ¬Homeward ⟨directories⟩) (cwd : Location) (env : Environment) (path : Path) :
    tree.pinnedFind directories base name cwd env = some path ↔
      path = (Path.mk directories).join (.ofString name) ∧
        (World.mk tree cwd env).HasProgram path := by
  have htried : tried env.home directories base name =
      [(Path.mk directories).join (.ofString name)] := by
    rw [tried, if_pos hname, List.splitOn_eq_singleton hcolon, List.map_singleton,
      Search.candidate_of_not_homeward hhome]
  rw [pinnedFind_eq, htried, List.find?_singleton, ← World.isExecutable_iff_hasProgram]
  constructor
  · intro h
    obtain ⟨hprogram, hpath⟩ := Option.ite_none_right_eq_some.mp h
    obtain rfl := Option.some.inj hpath
    exact ⟨rfl, hprogram⟩
  · rintro ⟨rfl, hprogram⟩
    rw [if_pos hprogram]

end

/-- A search with its own directories does without the process when they and its base are absolute.
In general the process decides where entries below the home directory lie, and where relative paths
start from. The base has no say in a name that is looked up: a relative entry is taken from the
working directory of the process, and with no directories given the name itself is. -/
theorem pinned_search_leans_on_process (tree : FileTree) (directories : Bytes) (base : Path)
    (name : String) :
    let found := tree.pinnedFind directories base name
    (base.isAbsolute = true →
      (∀ entry ∈ directories.splitOn colon, (Path.mk entry).isAbsolute = true) →
      ∀ cwd₁ cwd₂ env₁ env₂, found cwd₁ env₁ = found cwd₂ env₂) ∧
    (∀ cwd₁ cwd₂ env₁ env₂,
      ((∃ entry ∈ directories.splitOn colon, Homeward ⟨entry⟩) → env₁.home = env₂.home) →
      ((∃ path ∈ tried env₁.home directories base name, path.isAbsolute = false) → cwd₁ = cwd₂) →
      found cwd₁ env₁ = found cwd₂ env₂) ∧
    (LookedUp name → ∀ base', tree.pinnedFind directories base' name = found) ∧
    (LookedUp name → colon ∉ directories → ¬Homeward ⟨directories⟩ → ∀ cwd env path,
      found cwd env = some path ↔ path = (Path.mk directories).join (.ofString name) ∧
        (World.mk tree cwd env).HasProgram path) ∧
    (LookedUp name → directories = [] → ∀ cwd env path, found cwd env = some path ↔
      path = .ofString name ∧ (World.mk tree cwd env).HasProgram path) := by
  intro found
  refine ⟨tree.pinnedFind_of_absolute directories base name, ?_, ?_,
    tree.pinnedFind_single directories base name, ?_⟩
  · intro cwd₁ cwd₂ env₁ env₂ hhome hcwd
    exact tree.pinnedFind_congr directories base name hhome hcwd
  · intro hname base'
    funext cwd env
    change tree.pinnedFind directories base' name cwd env =
      tree.pinnedFind directories base name cwd env
    rw [pinnedFind_eq, pinnedFind_eq, tried, tried, if_pos hname, if_pos hname]
  · rintro hname rfl cwd env path
    rw [← Path.nil_join (.ofString name)]
    exact tree.pinnedFind_single [] base name hname (by decide) (by decide) cwd env path

def lone : FileTree :=
  ⟨[([Utf8.encode "a"], .directory), ([Utf8.encode "a", Utf8.encode "jarl"], .file 0o755 [])]⟩

theorem pinned_search_leans_on_process_absolute :
    let found := lone.pinnedFind (Utf8.encode "/b:/a") (.ofString "/") "jarl"
    let away : Environment :=
      { entries := [("HOME", Utf8.encode "/a"), ("PATH", Utf8.encode "/b")] }
    found [] {} = some (.ofString "/a/jarl") ∧
      found [Utf8.encode "a"] away = some (.ofString "/a/jarl") := by
  intro found away
  have hfound : lone.pinnedFind (Utf8.encode "/b:/a") (.ofString "/") "jarl" [] {} =
      some (.ofString "/a/jarl") := rfl
  obtain ⟨hsame, -⟩ :=
    lone.pinned_search_leans_on_process (Utf8.encode "/b:/a") (.ofString "/") "jarl"
  exact ⟨hfound, (hsame (by decide) (by decide +kernel) _ _ _ _).trans hfound⟩

/-- The base is `/` throughout. A search of nothing finds a program, a relative entry is not taken
from the base, and a tilde follows the variable of the process. -/
theorem pinned_search_sees_process :
    let found (directories : String) :=
      lone.pinnedFind (Utf8.encode directories) (.ofString "/") "jarl"
    let inside : Location := [Utf8.encode "a"]
    let homed (home : String) : Environment := { entries := [("HOME", Utf8.encode home)] }
    found "" inside {} = some (.ofString "jarl") ∧ found "" [] {} = none ∧
      found "a" [] {} = some (.ofString "a/jarl") ∧ found "a" inside {} = none ∧
      found "~" [] (homed "/a") = some (.ofString "/a/jarl") ∧
      found "~" [] (homed "/b") = none := by
  dsimp only
  refine ⟨?_, ?_, ?_, ?_, ?_, ?_⟩ <;> rfl

end FileTree

end Locator
