import Locator.Proofs.EnvironmentFile.Frame

namespace Locator.EnvironmentFile

variable {host : Host Id} {directory file : Path} {directories : List Path}
  {as : List Assignment}

def HasFile (host : Host Id) (directory : Path) : Prop :=
  ∃ executable, host.status (directory.join fileName) = .ok (.file executable)

/-- A directory that has no environment file; one that has a directory of that name counts. -/
def Lacks (host : Host Id) (directory : Path) : Prop :=
  host.status (directory.join fileName) = .ok .directory ∨
    host.status (directory.join fileName) = .error .notFound

lemma findIn_of_hasFile (h : HasFile host directory) :
    findIn host (directory :: directories) = some (directory.join fileName) := by
  obtain ⟨executable, hstatus⟩ := h
  rw [findIn, hstatus]
  rfl

lemma findIn_of_lacks (h : Lacks host directory) :
    findIn host (directory :: directories) = findIn host directories := by
  rcases h with hstatus | hstatus
  · rw [findIn, hstatus]
    rfl
  · rw [findIn, hstatus]
    rfl

lemma hasFile_or_lacks_of_findIn (h : findIn host (directory :: directories) = some file) :
    HasFile host directory ∨ Lacks host directory := by
  cases hstatus : host.status (directory.join fileName) with
  | ok status =>
    cases status with
    | file executable => exact .inl ⟨executable, hstatus⟩
    | directory => exact .inr (.inl hstatus)
  | error e =>
    cases e with
    | notFound => exact .inr (.inr hstatus)
    | _ =>
      rw [findIn, hstatus] at h
      cases h

lemma findIn_eq_some_iff :
    findIn host directories = some file ↔
      ∃ before holder after, directories = before ++ holder :: after ∧
        (∀ d ∈ before, Lacks host d) ∧ HasFile host holder ∧ file = holder.join fileName := by
  constructor
  · intro h
    induction directories with
    | nil => cases h
    | cons directory rest ih =>
      rcases hasFile_or_lacks_of_findIn h with hfile | hlacks
      · rw [findIn_of_hasFile hfile] at h
        exact ⟨[], directory, rest, rfl, nofun, hfile, (Option.some.inj h).symm⟩
      · rw [findIn_of_lacks hlacks] at h
        obtain ⟨before, holder, after, rfl, hbefore, hholder⟩ := ih h
        exact ⟨directory :: before, holder, after, rfl,
          List.forall_mem_cons.mpr ⟨hlacks, hbefore⟩, hholder⟩
  · rintro ⟨before, holder, after, rfl, hbefore, hholder, rfl⟩
    induction before with
    | nil => exact findIn_of_hasFile hholder
    | cons directory rest ih =>
      obtain ⟨hlacks, hrest⟩ := List.forall_mem_cons.mp hbefore
      rw [List.cons_append, findIn_of_lacks hlacks]
      exact ih hrest

/-- The file is the environment file of the working directory or, when that lacks one, of the
nearest directory above it that has one. -/
def Nearest (host : Host Id) (file : Path) : Prop :=
  ∃ here before holder after, host.workingDirectory = .ok here ∧
    here.ancestors = before ++ holder :: after ∧ (∀ d ∈ before, Lacks host d) ∧
    HasFile host holder ∧ file = holder.join fileName

lemma find_eq_some_iff : find host = some file ↔ Nearest host file := by
  cases hhere : host.workingDirectory with
  | error e =>
    have hfind : find host = none := by
      rw [find, hhere]
      rfl
    rw [hfind]
    refine iff_of_false nofun ?_
    rintro ⟨here, -, -, -, hok, -⟩
    cases hhere.symm.trans hok
  | ok here =>
    have hfind : find host = findIn host here.ancestors := by
      rw [find, hhere]
      rfl
    rw [hfind, findIn_eq_some_iff]
    constructor
    · rintro ⟨before, holder, after, hholder⟩
      exact ⟨here, before, holder, after, hhere, hholder⟩
    · rintro ⟨there, before, holder, after, hthere, hholder⟩
      cases hhere.symm.trans hthere
      exact ⟨before, holder, after, hholder⟩

/-- The assignments that a run goes by. There are none when no file is found, or when it cannot be
read. -/
inductive Supplies (host : Host Id) : List Assignment → Prop where
  | file {path : Path} {content : Bytes} (hnearest : Nearest host path)
      (hread : host.read path = .ok content) : Supplies host (assignments content)
  | nothing (h : ∀ path content, Nearest host path → host.read path ≠ .ok content) :
      Supplies host []

lemma inForce_of_supplies (h : Supplies host as) : inForce host = as := by
  cases h with
  | file hnearest hread =>
    rw [inForce, find_eq_some_iff.mpr hnearest]
    dsimp only
    rw [hread]
  | nothing h =>
    rw [inForce]
    cases hfind : find host with
    | none => rfl
    | some path =>
      dsimp only
      cases hread : host.read path with
      | error e => rfl
      | ok content => exact absurd hread (h path content (find_eq_some_iff.mp hfind))

end Locator.EnvironmentFile
