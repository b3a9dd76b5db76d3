import Locator.Proofs.Path.Components
import Locator.Trace
import Mathlib.Data.List.Basic
import Mathlib.Tactic.Tauto

namespace Locator

lemma notMem_of_mem_splitOn {α : Type} [DecidableEq α] {sep : α} {xs piece : List α}
    (h : piece ∈ xs.splitOn sep) : sep ∉ piece := by
  induction xs generalizing piece with
  | nil =>
    obtain rfl := List.mem_singleton.mp h
    exact List.not_mem_nil
  | cons x xs ih =>
    rw [List.splitOn_cons_eq_if_modifyHead] at h
    by_cases hx : x = sep
    · rw [if_pos (beq_iff_eq.mpr hx)] at h
      rcases List.mem_cons.mp h with rfl | h
      · exact List.not_mem_nil
      · exact ih h
    · rw [if_neg (by simpa using hx)] at h
      cases hs : xs.splitOn sep with
      | nil => exact absurd hs (List.splitOn_ne_nil sep xs)
      | cons first pieces =>
        rw [hs] at h ih
        rcases List.mem_cons.mp h with rfl | h
        · have hfirst := ih List.mem_cons_self
          simp [Ne.symm hx, hfirst]
        · exact ih (List.mem_cons_of_mem first h)

namespace Path

lemma nil_join (q : Path) : (Path.mk []).join q = q := by
  rw [join]
  split <;> rfl

def stem (p : Path) : Bytes := if p.bytes.getLast? = some slash then p.bytes.dropLast else p.bytes

/-- The path that leads from `p` through some names, with one slash ahead of each. -/
def descend (p : Path) (names : List Bytes) : Path :=
  if names = [] then p else ⟨p.stem ++ names.flatMap (slash :: ·)⟩

lemma join_name {p : Path} {name : Bytes} (hp : p.bytes ≠ []) (hname : slash ∉ name) :
    p.join ⟨name⟩ = ⟨p.stem ++ slash :: name⟩ := by
  have hrelative : (Path.mk name).isAbsolute = false := by
    cases name with
    | nil => rfl
    | cons b rest =>
      have hb : b ≠ slash := fun hb => hname (by simp [hb])
      simp [isAbsolute, hb]
  rw [join, hrelative, stem]
  by_cases hlast : p.bytes.getLast? = some slash
  · obtain ⟨front, hfront⟩ := List.getLast?_eq_some_iff.mp hlast
    simp [hfront]
  · simp [hp, hlast]

lemma foldl_join {p : Path} {names : List Bytes} (hp : p.bytes ≠ [])
    (hnames : ∀ name ∈ names, name ≠ [] ∧ slash ∉ name) :
    names.foldl (fun q name => q.join ⟨name⟩) p = p.descend names := by
  -- past the first name the path no longer ends in a slash, and is its own stem
  induction names generalizing p with
  | nil => rfl
  | cons name rest ih =>
    obtain ⟨hne, hslash⟩ := hnames name List.mem_cons_self
    have hjoin := join_name hp hslash
    have hstem : (p.join ⟨name⟩).stem = p.stem ++ slash :: name := by
      have hlast : name.getLast? ≠ some slash := fun h => hslash (List.mem_of_getLast? h)
      have hname : name.getLast? = some (name.getLast hne) := List.getLast?_eq_getLast_of_ne_nil hne
      rw [hjoin, stem, if_neg]
      simpa [List.getLast?_append, List.getLast?_cons, hname] using hlast
    have hnonempty : (p.join ⟨name⟩).bytes ≠ [] := by simp [hjoin]
    rw [List.foldl_cons, ih hnonempty fun n hn => hnames n (List.mem_cons_of_mem name hn)]
    cases rest with
    | nil => simp [descend, hjoin]
    | cons next rest => simp [descend, hstem]

lemma isAbsolute_descend {p : Path} (h : p.isAbsolute = true) (names : List Bytes) :
    (p.descend names).isAbsolute = true := by
  cases names with
  | nil => exact h
  | cons name names =>
    obtain ⟨bytes⟩ := p
    match bytes with
    | [] => cases h
    | [b] =>
      by_cases hb : b = slash
      · simp [descend, stem, hb, isAbsolute]
      · exact absurd h (by simp [isAbsolute, hb])
    | b :: c :: rest =>
      have hb : b = slash := by simpa [isAbsolute] using h
      rw [hb, descend, if_neg (List.cons_ne_nil name names), stem]
      split <;> rfl

lemma eq_of_leading {piece name : Bytes} {more rest : List Component}
    (h : leading piece ++ more = .normal name :: rest) : piece = name := by
  by_cases hnil : piece = []
  · rw [leading, if_pos hnil] at h
    cases h
  · by_cases hdot : piece = dot
    · rw [leading, if_neg hnil, if_pos hdot] at h
      cases h
    · rw [leading, if_neg hnil, if_neg hdot, component?, if_neg (by simp [hnil, hdot])] at h
      by_cases hdots : piece = dots
      · rw [if_pos hdots] at h
        cases h
      · rw [if_neg hdots] at h
        cases h
        rfl

lemma map_bytes_filterMap_component? (pieces : List Bytes) :
    (pieces.filterMap component?).map Component.bytes =
      pieces.filter fun piece => piece ≠ [] ∧ piece ≠ dot := by
  induction pieces with
  | nil => rfl
  | cons piece pieces ih =>
    by_cases hstays : piece = [] ∨ piece = dot
    · have hnone : component? piece = none := by rw [component?, if_pos hstays]
      have hpiece : ¬(piece ≠ [] ∧ piece ≠ dot) := by tauto
      simp [hnone, hpiece, ih]
    · have hpiece : piece ≠ [] ∧ piece ≠ dot := by tauto
      by_cases hdots : piece = dots
      · have hparent : component? piece = some .parent := by
          rw [component?, if_neg hstays, if_pos hdots]
        rw [List.filterMap_cons_some hparent, List.filter_cons_of_pos (by simpa using hpiece),
          List.map_cons, ih, hdots]
        rfl
      · have hnormal : component? piece = some (.normal piece) := by
          rw [component?, if_neg hstays, if_neg hdots]
        simp [hnormal, hpiece, ih, Component.bytes]

end Path

namespace Search

structure Lists (directories : Bytes) (entries : List Bytes) : Prop where
  ne_nil : entries ≠ []
  colon_notMem : ∀ entry ∈ entries, colon ∉ entry
  spelled : [colon].intercalate entries = directories

lemma lists_iff {directories : Bytes} {entries : List Bytes} :
    Lists directories entries ↔ entries = directories.splitOn colon := by
  constructor
  · rintro ⟨hne, hcolon, rfl⟩
    rw [List.splitOn_intercalate colon hcolon hne]
  · rintro rfl
    refine ⟨List.splitOn_ne_nil colon directories, fun _ => notMem_of_mem_splitOn, ?_⟩
    rw [List.intercalate_splitOn]

/-- An entry below the home directory: a tilde, alone or ahead of a slash. -/
def Homeward (entry : Path) : Prop :=
  entry.bytes = tilde ∨ tilde ++ [Path.slash] <+: entry.bytes

instance (entry : Path) : Decidable (Homeward entry) := inferInstanceAs (Decidable (_ ∨ _))

def below (entry : Path) : List Bytes :=
  ((entry.bytes.drop tilde.length).splitOn Path.slash).filter fun piece =>
    piece ≠ [] ∧ piece ≠ Path.dot

def directory (home entry : Path) : Path :=
  if Homeward entry then home.descend (below entry) else entry

variable {home entry : Path}

lemma components_of_homeward (h : Homeward entry) :
    entry.components = .normal tilde ::
      ((entry.bytes.drop tilde.length).splitOn Path.slash).filterMap Path.component? := by
  obtain ⟨bytes⟩ := entry
  rcases h with h | ⟨rest, h⟩
  · subst h
    decide
  · obtain rfl : bytes = tilde ++ Path.slash :: rest := by simpa using h.symm
    have hpieces : (tilde ++ Path.slash :: rest).splitOn Path.slash =
        tilde :: rest.splitOn Path.slash := List.splitOn_append_cons_self tilde rest
    have htilde : Path.leading tilde = [.normal tilde] := by decide
    have hdrop : (tilde ++ Path.slash :: rest).drop tilde.length = Path.slash :: rest := rfl
    rw [Path.components, if_neg (by simp), hpieces, Path.componentsOf_cons, htilde, hdrop,
      List.splitOn_cons_eq_if_modifyHead, if_pos (BEq.refl Path.slash)]
    rfl

lemma homeward_of_components {rest : List Path.Component}
    (h : entry.components = .normal tilde :: rest) : Homeward entry := by
  obtain ⟨bytes⟩ := entry
  have hspelled : [Path.slash].intercalate (bytes.splitOn Path.slash) = bytes := by
    rw [List.intercalate_splitOn]
  have hne : bytes ≠ [] := by
    rintro rfl
    cases h
  rw [Path.components, if_neg hne] at h
  cases hs : bytes.splitOn Path.slash with
  | nil => exact absurd hs (List.splitOn_ne_nil Path.slash bytes)
  | cons piece pieces =>
    rw [hs] at h hspelled
    rw [Path.componentsOf_cons] at h
    obtain rfl := Path.eq_of_leading h
    cases pieces with
    | nil =>
      left
      simpa using hspelled.symm
    | cons next pieces =>
      right
      refine ⟨[Path.slash].intercalate (next :: pieces), ?_⟩
      rw [← hspelled]
      simp [List.intercalate_cons_cons]

lemma expand_eq (hhome : home.bytes ≠ []) (entry : Path) :
    expand home entry = directory home entry := by
  by_cases h : Homeward entry
  · have hnames : ∀ name ∈ below entry, name ≠ [] ∧ Path.slash ∉ name := by
      intro name hname
      obtain ⟨hmem, hkept⟩ := List.mem_filter.mp hname
      exact ⟨(of_decide_eq_true hkept).1, notMem_of_mem_splitOn hmem⟩
    rw [directory, if_pos h, ← Path.foldl_join hhome hnames, below,
      ← Path.map_bytes_filterMap_component?, List.foldl_map, expand, components_of_homeward h]
    exact if_pos rfl
  · rw [directory, if_neg h, expand]
    split
    · next name rest hcomponents =>
      apply if_neg
      rintro rfl
      exact h (homeward_of_components hcomponents)
    · rfl

lemma not_homeward_of_isAbsolute {entry : Path} (h : entry.isAbsolute = true) :
    ¬Homeward entry := by
  obtain ⟨bytes⟩ := entry
  rintro (rfl | ⟨rest, rfl⟩)
  · exact absurd h (by decide)
  · exact absurd h (by simp [Path.isAbsolute, tilde, Path.slash])

lemma isAbsolute_directory
    (h : entry.isAbsolute = true ∨ Homeward entry ∧ home.isAbsolute = true) :
    (directory home entry).isAbsolute = true := by
  rw [directory]
  rcases h with h | ⟨hentry, hhome⟩
  · rw [if_neg (not_homeward_of_isAbsolute h)]
    exact h
  · rw [if_pos hentry]
    exact Path.isAbsolute_descend hhome _

end Search

namespace SearchPath

def directories? (env : Environment) : SearchPath → Option Bytes
  | .process => env.get? "PATH"
  | .pinned directories _ => some directories

def base? (host : Host Id) : SearchPath → Option Path
  | .process => (Id.run host.workingDirectory).toOption
  | .pinned _ base => some base

end SearchPath

namespace Search

variable (host : Host Id)

def firstOf : Option (List Path) → Except SearchMiss Path
  | none => .error .nowhereToLook
  | some paths =>
    match paths.findM? host.isExecutable with
    | some path => .ok path
    | none => .error .notFound

lemma toOption_firstOf (paths? : Option (List Path)) :
    (firstOf host paths?).toOption = paths?.bind (List.find? host.isExecutable) := by
  cases paths? with
  | none => rfl
  | some paths =>
    have hfirst : paths.findM? host.isExecutable = paths.find? host.isExecutable :=
      List.findM?_pure (m := Id) _ _
    rw [firstOf, hfirst, Option.bind_some]
    cases paths.find? host.isExecutable <;> rfl

lemma find_eq_find? (env : Environment) (search : SearchPath) (name : String) :
    (Id.run (find host env search name)).toOption =
      (candidates? env.home (search.directories? env) (search.base? host) (.ofString name)).bind
        (List.find? host.isExecutable) := by
  have hfind : find host env search name = firstOf host
      (candidates? env.home (search.directories? env) (search.base? host) (.ofString name)) := by
    cases search <;> rfl
  rw [Id.run, hfind, toOption_firstOf]

end Search

lemma Trace.run_find (host : Host Id) (env : Environment) (search : SearchPath) (name : String)
    (t : Trace) :
    ((Trace.find host env search name).run t).1 =
      (Id.run (Search.find host env search name)).toOption := by
  have hrun : (Trace.find host env search name).run t =
      (Trace.searched name (some (Search.find host env search name)) :
        StateM Trace (Option Path)).run t := rfl
  rw [hrun, Id.run]
  cases Search.find host env search name <;> rfl

end Locator
