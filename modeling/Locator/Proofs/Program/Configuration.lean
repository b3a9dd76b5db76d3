import Locator.Program
import Mathlib.Tactic.Lemma

namespace Locator.Program

variable {host : Host Id} {invocation : Invocation}

/-- No root is given, the settings cannot be loaded, or the root is relative and there is no
directory to take it from. -/
def Unconfigured (host : Host Id) (invocation : Invocation) : Prop :=
  invocation.extensionRoot = none ∨
  (∃ path e, invocation.settings = some path ∧ Settings.load host path = .error e) ∨
  ∃ root e, invocation.extensionRoot = some root ∧ root.isAbsolute = false ∧
    host.workingDirectory = .error e

lemma loadSettings_eq_error {path? : Option Path} {e : SettingsError}
    (h : loadSettings host path? = .error e) :
    ∃ path, path? = some path ∧ Settings.load host path = .error e := by
  cases path? with
  | none => cases h
  | some path => exact ⟨path, rfl, h⟩

lemma absolute_eq (host : Host Id) (path : Path) :
    absolute host path =
      if path.isAbsolute then .ok path
      else match host.workingDirectory with
        | .ok directory => .ok (directory.join path)
        | .error e => .error (noWorkingDirectory e) := rfl

lemma absolute_eq_error {root : Path} {e : ProgramError} (h : absolute host root = .error e) :
    root.isAbsolute = false ∧ ∃ cause, host.workingDirectory = .error cause ∧
      e = noWorkingDirectory cause := by
  rw [absolute_eq] at h
  split at h
  · cases h
  · next hrelative =>
    refine ⟨by simpa using hrelative, ?_⟩
    cases hd : host.workingDirectory with
    | ok directory =>
      rw [hd] at h
      cases h
    | error cause =>
      rw [hd] at h
      cases h
      exact ⟨cause, rfl, rfl⟩

lemma plan_eq (host : Host Id) (invocation : Invocation) :
    plan host invocation =
      match invocation.extensionRoot with
      | none => .error rootMissing
      | some root =>
        match loadSettings host invocation.settings with
        | .error e => .error (.ofSettings e)
        | .ok file =>
          match absolute host root with
          | .error e => .error e
          | .ok root => .ok ⟨⟨root, .current⟩,
              (mergeSettings invocation file).toRequest invocation.trusted⟩ := by
  unfold plan
  cases invocation.extensionRoot <;> rfl

lemma plan_of_stages {root made : Path} {file : Settings}
    (hroot : invocation.extensionRoot = some root)
    (hload : loadSettings host invocation.settings = .ok file)
    (habsolute : absolute host root = .ok made) :
    plan host invocation = .ok ⟨⟨made, .current⟩,
      (mergeSettings invocation file).toRequest invocation.trusted⟩ := by
  rw [plan_eq, hroot, hload]
  dsimp only
  rw [habsolute]

lemma unconfigured_of_plan {e : ProgramError} (h : plan host invocation = .error e) :
    Unconfigured host invocation ∧ e.exitCode = 78 := by
  rw [plan_eq] at h
  split at h
  · next hroot =>
    cases h
    exact ⟨.inl hroot, rfl⟩
  · next root hroot =>
    split at h
    · next cause hload =>
      cases h
      obtain ⟨path, hpath, hload⟩ := loadSettings_eq_error hload
      exact ⟨.inr (.inl ⟨path, cause, hpath, hload⟩), rfl⟩
    · split at h
      · next cause habsolute =>
        cases h
        obtain ⟨hrelative, e, hdirectory, rfl⟩ := absolute_eq_error habsolute
        exact ⟨.inr (.inr ⟨root, e, hroot, hrelative, hdirectory⟩), rfl⟩
      · cases h

lemma plan_of_unconfigured (h : Unconfigured host invocation) :
    ∃ e, plan host invocation = .error e := by
  rw [plan_eq]
  split
  · exact ⟨_, rfl⟩
  · next root hroot =>
    split
    · exact ⟨_, rfl⟩
    · next file hload =>
      split
      · exact ⟨_, rfl⟩
      · next made habsolute =>
        rcases h with hnone | ⟨path, e, hpath, herror⟩ | ⟨_, e, hsome, hrelative, hdirectory⟩
        · rw [hroot] at hnone
          cases hnone
        · rw [hpath] at hload
          cases herror.symm.trans hload
        · rw [hroot] at hsome
          cases hsome
          rw [absolute_eq, hrelative, hdirectory] at habsolute
          cases habsolute

end Locator.Program
