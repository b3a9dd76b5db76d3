import Locator.Proofs.Resolver.Existence
import Locator.Proofs.Search.Entries

namespace Locator

namespace Environment

lemma home_of_get? {env : Environment} {home : Bytes} (h : env.get? "HOME" = some home)
    (hne : home ≠ []) : env.home = ⟨home⟩ := by
  simp [Environment.home, h, Option.filter, hne]

lemma home_ne_nil (env : Environment) : env.home.bytes ≠ [] := by
  cases h : env.get? "HOME" with
  | none =>
    rw [Environment.home, h]
    exact env.userHome.property
  | some home =>
    by_cases hne : home = []
    · rw [Environment.home, h, hne]
      exact env.userHome.property
    · rw [home_of_get? h hne]
      exact hne

end Environment

lemma SearchPath.directories?_eq_none {env : Environment} {search : SearchPath} :
    search.directories? env = none ↔ search = .process ∧ env.get? "PATH" = none := by
  cases search <;> simp [SearchPath.directories?]

namespace Search

variable {host : Host Id} {env : Environment} {search : SearchPath} {name : String}

def candidate (home : Path) (name : String) (entry : Bytes) : Path :=
  (directory home ⟨entry⟩).join (.ofString name)

lemma isAbsolute_candidate {home : Path} {entry : Bytes} (name : String)
    (h : (Path.mk entry).isAbsolute = true ∨ Homeward ⟨entry⟩ ∧ home.isAbsolute = true) :
    (candidate home name entry).isAbsolute = true := by
  rw [candidate, Path.isAbsolute_join, isAbsolute_directory h, Bool.true_or]

/-- A name of one component is looked up, as is one of none. -/
def LookedUp (name : String) : Prop := (Path.ofString name).components.length ≤ 1

instance (name : String) : Decidable (LookedUp name) := inferInstanceAs (Decidable (_ ≤ _))

lemma candidates?_of_lookedUp (h : LookedUp name) (env : Environment)
    (directories : Option Bytes) (base : Option Path) :
    candidates? env.home directories base (.ofString name) =
      directories.map fun ds => (ds.splitOn colon).map (candidate env.home name) := by
  have hsingle : decide (1 < (Path.ofString name).components.length) = false :=
    decide_eq_false (Nat.not_lt.mpr h)
  have hexpand (entry : Bytes) :
      (expand env.home ⟨entry⟩).join (.ofString name) = candidate env.home name entry := by
    rw [candidate, expand_eq env.home_ne_nil]
  cases base <;> simp only [candidates?, hsingle, hexpand]

lemma find_of_lookedUp (h : LookedUp name) :
    (Id.run (find host env search name)).toOption = (search.directories? env).bind fun ds =>
      ((ds.splitOn colon).map (candidate env.home name)).find? host.isExecutable := by
  rw [find_eq_find?, candidates?_of_lookedUp h, Option.bind_map]
  rfl

end Search

lemma find?_map_eq_some_iff {α β : Type} {f : α → β} {p : β → Bool} {xs : List α} {b : β} :
    (xs.map f).find? p = some b ↔
      ∃ before x after, xs = before ++ x :: after ∧ b = f x ∧ p b = true ∧
        ∀ y ∈ before, ¬p (f y) = true := by
  rw [List.find?_map, Option.map_eq_some_iff]
  constructor
  · rintro ⟨x, hx, rfl⟩
    obtain ⟨hp, before, after, hsplit, hbefore⟩ := List.find?_eq_some_iff_append.mp hx
    exact ⟨before, x, after, hsplit, rfl, hp, by simpa using hbefore⟩
  · rintro ⟨before, x, after, hsplit, rfl, hp, hbefore⟩
    refine ⟨x, List.find?_eq_some_iff_append.mpr ⟨hp, before, after, hsplit, ?_⟩, rfl⟩
    simpa using hbefore

namespace World

variable (w : World)

def HasProgram (path : Path) : Prop :=
  ∃ mode content, w.tree.find w.cwd path = .ok (.file mode content) ∧ mode &&& 0o111 ≠ 0

lemma isExecutable_iff_hasProgram {path : Path} :
    w.host.isExecutable path = true ↔ w.HasProgram path :=
  w.isExecutable_iff.trans w.status_eq_executable

/-- A search finds a path exactly when it is what an entry has for the command, it can be executed,
and no entry ahead has one that can; it finds nothing exactly when no entry has one, or when the
process has no search path. -/
theorem find_is_first_match (search : SearchPath) (name : String) (t : Trace) (home : Bytes)
    (hhome : w.environment.get? "HOME" = some home) (hne : home ≠ [])
    (hname : Search.LookedUp name) :
    let found := ((Trace.find w.host w.environment search name).run t).1
    let candidate := Search.candidate ⟨home⟩ name
    (∀ path, found = some path ↔
      ∃ directories before entry after, search.directories? w.environment = some directories ∧
        Search.Lists directories (before ++ entry :: after) ∧ path = candidate entry ∧
        w.HasProgram path ∧ ∀ e ∈ before, ¬w.HasProgram (candidate e)) ∧
    (found = none ↔
      (search = .process ∧ w.environment.get? "PATH" = none) ∨
      ∃ directories entries, search.directories? w.environment = some directories ∧
        Search.Lists directories entries ∧ ∀ e ∈ entries, ¬w.HasProgram (candidate e)) := by
  intro found candidate
  have hfound : found = (search.directories? w.environment).bind fun ds =>
      ((ds.splitOn Search.colon).map candidate).find? w.host.isExecutable := by
    change ((Trace.find w.host w.environment search name).run t).1 = _
    rw [Trace.run_find, Search.find_of_lookedUp hname, Environment.home_of_get? hhome hne]
  simp only [← isExecutable_iff_hasProgram, Search.lists_iff]
  refine ⟨?_, ?_⟩
  · intro path
    rw [hfound, Option.bind_eq_some_iff]
    simp only [find?_map_eq_some_iff]
    constructor
    · rintro ⟨ds, hds, before, entry, after, hsplit, hpath, hprogram, hbefore⟩
      exact ⟨ds, before, entry, after, hds, hsplit.symm, hpath, hprogram, hbefore⟩
    · rintro ⟨ds, before, entry, after, hds, hsplit, hpath, hprogram, hbefore⟩
      exact ⟨ds, hds, before, entry, after, hsplit.symm, hpath, hprogram, hbefore⟩
  · rw [hfound, ← SearchPath.directories?_eq_none]
    cases search.directories? w.environment with
    | none => simp
    | some ds =>
      rw [Option.bind_some, List.find?_eq_none, List.forall_mem_map]
      constructor
      · intro hentries
        exact .inr ⟨ds, ds.splitOn Search.colon, rfl, rfl, hentries⟩
      · rintro (hnone | ⟨_, _, hds, rfl, hentries⟩)
        · cases hnone
        · cases hds
          exact hentries

theorem find_is_first_match_linked :
    let found := ((Trace.find linked.host linked.environment .process "jarl").run {}).1
    Search.Lists (Utf8.encode ":~/b") [[], Utf8.encode "~/b"] ∧
      ¬linked.HasProgram (.ofString "jarl") ∧
      linked.HasProgram (.ofString "/h/b/jarl") ∧
      found = some (.ofString "/h/b/jarl") := by
  intro found
  have hlists : Search.Lists (Utf8.encode ":~/b") [[], Utf8.encode "~/b"] := by
    rw [Search.lists_iff]
    decide +kernel
  have habsent : ¬linked.HasProgram (.ofString "jarl") := by
    rw [← isExecutable_iff_hasProgram, Bool.not_eq_true]
    rfl
  have hpresent : linked.HasProgram (.ofString "/h/b/jarl") := by
    rw [← isExecutable_iff_hasProgram]
    rfl
  obtain ⟨hfound, -⟩ := linked.find_is_first_match .process "jarl" {} (Utf8.encode "/h") rfl
    (by decide) (by decide)
  refine ⟨hlists, habsent, hpresent, (hfound _).mpr ?_⟩
  refine ⟨Utf8.encode ":~/b", [[]], Utf8.encode "~/b", [], rfl, hlists, by decide +kernel,
    hpresent, ?_⟩
  intro e he
  obtain rfl := List.mem_singleton.mp he
  exact habsent

end World

end Locator
