import Locator.Proofs.Path.Components

namespace Locator

namespace Path

variable {name : Bytes} {names : List Bytes}

def separator (p : Path) : Bytes :=
  if p.bytes ≠ [] ∧ p.bytes.getLast? ≠ some slash then [slash] else []

def through (p : Path) (names : List Bytes) : Path :=
  names.foldl (fun q name => q.join ⟨name⟩) p

@[simp] lemma through_nil (p : Path) : p.through [] = p := rfl

@[simp] lemma through_cons (p : Path) (name : Bytes) (names : List Bytes) :
    p.through (name :: names) = (p.join ⟨name⟩).through names := rfl

lemma bytes_join (p : Path) (h : IsName name) :
    (p.join ⟨name⟩).bytes = p.bytes ++ p.separator ++ name := by
  rw [join, h.not_isAbsolute, if_neg Bool.false_ne_true, separator]
  by_cases hbare : p.bytes = [] ∨ p.bytes.getLast? = some slash
  · have hnone : ¬(p.bytes ≠ [] ∧ p.bytes.getLast? ≠ some slash) := by
      rintro ⟨hne, hlast⟩
      exact hbare.elim hne hlast
    rw [if_pos hbare, if_neg hnone, List.append_nil]
  · obtain hsome := not_or.mp hbare
    rw [if_neg hbare, if_pos hsome, List.append_assoc]
    rfl

lemma separator_join (p : Path) (h : IsName name) : (p.join ⟨name⟩).separator = [slash] := by
  have hname : name.getLast? = some (name.getLast h.ne_nil) :=
    List.getLast?_eq_some_getLast h.ne_nil
  have hlast : name.getLast? ≠ some slash := fun hl => h.slash_notMem (List.mem_of_getLast? hl)
  rw [separator, bytes_join p h, if_pos]
  refine ⟨by simp [h.ne_nil], ?_⟩
  rwa [List.getLast?_append, hname, Option.some_or, ← hname]

lemma bytes_through (p : Path) (h : ∀ n ∈ name :: names, IsName n) :
    (p.through (name :: names)).bytes =
      p.bytes ++ p.separator ++ [slash].intercalate (name :: names) := by
  -- past the first name there is always a slash to set
  induction names generalizing p name with
  | nil =>
    rw [through_cons, through_nil, bytes_join p (h name List.mem_cons_self)]
    simp
  | cons next rest ih =>
    have hname := h name List.mem_cons_self
    have hrest : ∀ n ∈ next :: rest, IsName n := fun n hn => h n (List.mem_cons_of_mem name hn)
    rw [through_cons, ih (p.join ⟨name⟩) hrest, bytes_join p hname, separator_join p hname,
      List.intercalate_cons_cons]
    simp only [List.append_assoc]

lemma components_through (p : Path) (h : ∀ n ∈ names, IsName n) :
    (p.through names).components = p.components ++ names.map .normal := by
  induction names generalizing p with
  | nil => simp
  | cons name rest ih =>
    have hrest : ∀ n ∈ rest, IsName n := fun n hn => h n (List.mem_cons_of_mem name hn)
    rw [through_cons, ih (p.join ⟨name⟩) hrest, components_join p (h name List.mem_cons_self),
      List.map_cons, List.append_assoc, List.singleton_append]

lemma isAbsolute_through (p : Path) (h : ∀ n ∈ names, IsName n) :
    (p.through names).isAbsolute = p.isAbsolute := by
  induction names generalizing p with
  | nil => rfl
  | cons name rest ih =>
    have hrest : ∀ n ∈ rest, IsName n := fun n hn => h n (List.mem_cons_of_mem name hn)
    rw [through_cons, ih (p.join ⟨name⟩) hrest, isAbsolute_join,
      (h name List.mem_cons_self).not_isAbsolute, Bool.or_false]

end Path

def bundledNames (platform : Platform) : List Bytes :=
  [Utf8.encode "bundled", Utf8.encode "bin", Utf8.encode platform.binaryName]

lemma bundledPath_eq (root : Path) (platform : Platform) :
    bundledPath root platform = root.through (bundledNames platform) := rfl

lemma isName_of_mem_bundledNames {platform : Platform} {name : Bytes}
    (h : name ∈ bundledNames platform) : Path.IsName name := by
  simp only [bundledNames, List.mem_cons, List.not_mem_nil, or_false] at h
  rcases h with rfl | rfl | rfl
  · exact ⟨by decide, by decide, by decide, by decide⟩
  · exact ⟨by decide, by decide, by decide, by decide⟩
  · exact platform.isName_binaryName

lemma intercalate_bundledNames (platform : Platform) :
    [Path.slash].intercalate (bundledNames platform) =
      Utf8.encode ("bundled/bin/" ++ platform.binaryName) := by
  cases platform <;> decide

lemma bytes_bundledPath (root : Path) (platform : Platform) :
    (bundledPath root platform).bytes =
      root.bytes ++ root.separator ++ Utf8.encode ("bundled/bin/" ++ platform.binaryName) := by
  rw [bundledPath_eq, ← intercalate_bundledNames]
  exact root.bytes_through fun _ => isName_of_mem_bundledNames

lemma components_bundledPath (root : Path) (platform : Platform) :
    (bundledPath root platform).components =
      root.components ++ (bundledNames platform).map .normal := by
  rw [bundledPath_eq]
  exact root.components_through fun _ => isName_of_mem_bundledNames

lemma isAbsolute_bundledPath (root : Path) (platform : Platform) :
    (bundledPath root platform).isAbsolute = root.isAbsolute := by
  rw [bundledPath_eq]
  exact root.isAbsolute_through fun _ => isName_of_mem_bundledNames

/-- The bundled path is the root, byte for byte, followed by `bundled/bin/` and the name of the
executable, with a slash ahead of these where the root does not bring one. It has the components of
the root and three more, so that it is absolute when the root is and tells the root's components. -/
theorem bundledPath_stays_under_root (root : Path) (platform : Platform) :
    let path := bundledPath root platform
    path.bytes = root.bytes ++
      (if root.bytes ≠ [] ∧ root.bytes.getLast? ≠ some Path.slash then [Path.slash] else []) ++
      Utf8.encode ("bundled/bin/" ++ platform.binaryName) ∧
    path.components = root.components ++ [.normal (Utf8.encode "bundled"),
      .normal (Utf8.encode "bin"), .normal (Utf8.encode platform.binaryName)] ∧
    (path.isAbsolute = true ↔ root.isAbsolute = true) ∧
    ∀ other, path.components = (bundledPath other platform).components ↔
      root.components = other.components := by
  intro path
  refine ⟨bytes_bundledPath root platform, components_bundledPath root platform, ?_, ?_⟩
  · rw [isAbsolute_bundledPath]
  · intro other
    rw [components_bundledPath, components_bundledPath]
    exact List.append_left_inj _

end Locator
