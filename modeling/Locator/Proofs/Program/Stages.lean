import Locator.Program
import Locator.Proofs.Resolver.Ports

/-! The stages of a run, on a host whose answers may change from one question to the next. -/

namespace Locator

namespace Trace

variable {m : Type → Type} [Monad m] (host : Host m) (env : Environment) (search : SearchPath)
  (sink : Sink) (t : Trace)

def noted (t : Trace) (n : Note) : Sink → Trace
  | .log => { t with events := t.events ++ [.note n.text] }
  | .keep => { t with lines := t.lines ++ [n.text] }

@[simp] lemma run_log (event : Event) :
    (log event : StateT Trace m Unit).run t =
      pure ((), { t with events := t.events ++ [event] }) := rfl

@[simp] lemma run_probe_note (n : Note) :
    ((probe host env search sink).note n).run t = pure ((), t.noted n sink) := by
  cases sink <;> rfl

@[simp] lemma run_probe_log (event : Event) :
    ((probe host env search sink).log event).run t =
      pure ((), { t with events := t.events ++ [event] }) := rfl

@[simp] lemma run_probe_isPresent [LawfulMonad m] (path : Path) :
    ((probe host env search sink).isPresent path).run t = (·, t) <$> host.isPresent path := by
  simp [probe]

end Trace

namespace LogFilter

/-- Some directive for the log is cut inside a character, with no malformed one ahead of it. -/
def Cut (env : Environment) : Prop := (env.text? variableName).map ofText = some (.error .cut)

variable {env : Environment}

lemma ofEnvironment?_eq_none_iff {verbose : Bool} :
    ofEnvironment? env verbose = none ↔ Cut env := by
  unfold ofEnvironment? Cut
  generalize (env.text? variableName).map ofText = read
  match read with
  | none | some (.ok _) | some (.error .malformed) | some (.error .cut) => simp

instance : Decidable (Cut env) :=
  decidable_of_iff (ofEnvironment? env false = none) ofEnvironment?_eq_none_iff

-- The blank shifts the places of the marks by one, into the accented letter.
example : Cut { entries := [(variableName, Utf8.encode " é=info")] } := by decide +kernel

lemma exists_of_not_cut (h : ¬Cut env) (verbose : Bool) :
    ∃ filter, ofEnvironment? env verbose = some filter :=
  Option.ne_none_iff_exists'.mp (mt ofEnvironment?_eq_none_iff.mp h)

lemma not_cut_of_unset (h : env.get? variableName = none) : ¬Cut env := by
  simp [Cut, Environment.text?, h]

end LogFilter

namespace Program

variable {σ : Type} {host : Host (StateM σ)} {env : Environment} {words : List Bytes}
  {invocation : Invocation} {s s' : σ} {p : Plan}

lemma plan_eq_ok (h : (plan host invocation).run s = (.ok p, s')) :
    ∃ root file s₁ absoluteRoot,
      invocation.extensionRoot = some root ∧
      (loadSettings host invocation.settings).run s = (.ok file, s₁) ∧
      (absolute host root).run s₁ = (.ok absoluteRoot, s') ∧
      p = ⟨⟨absoluteRoot, .current⟩,
        (mergeSettings invocation file).toRequest invocation.trusted⟩ := by
  unfold plan at h
  cases hroot : invocation.extensionRoot with
  | none =>
    rw [hroot] at h
    simp [rootMissing] at h
    cases h
  | some root =>
    rw [hroot] at h
    cases hload : (loadSettings host invocation.settings).run s with
    | mk loaded s₁ =>
      dsimp only at h
      rw [run_bind_of hload] at h
      cases loaded with
      | error e => cases h
      | ok file =>
        cases habs : (absolute host root).run s₁ with
        | mk made s₂ =>
          dsimp only at h
          rw [run_bind_of habs] at h
          cases made with
          | error e => cases h
          | ok absoluteRoot =>
            cases h
            exact ⟨root, file, s₁, absoluteRoot, rfl, rfl, habs, rfl⟩

def ended (filter : LogFilter) : Except ProgramError Resolution × Trace → Output
  | (.ok resolution, trace) => ⟨0, resolution.path.display ++ "\n", logged filter trace⟩
  | (.error e, trace) => failed e (logged filter trace)

lemma run_of_plan {filled : Environment} {filter : LogFilter} {s₁ : σ}
    (hload : (EnvironmentFile.load? host env).run s = (some filled, s₁))
    (hread : CommandLine.read filled words = .ok invocation)
    (hfilter : LogFilter.ofEnvironment? filled invocation.verbose = some filter)
    (hcommand : invocation.command.getD .resolve = .resolve)
    (hplan : (plan host invocation).run s₁ = (.ok p, s')) :
    (run host env words).run s =
      (ended filter <$> (resolve host filled .log p).run {}).run s' := by
  have hinterpret : (run host env words).run s = (interpret host filled words).run s₁ :=
    run_bind_of hload
  have hperform : interpret host filled words = perform host filled filter invocation := by
    simp [interpret, hread, hfilter]
  have hcarried : (perform host filled filter invocation).run s₁ = _ := run_bind_of hplan
  rw [hinterpret, hperform, hcarried]
  simp only [hcommand]
  cases hr : ((resolve host filled .log p).run {}).run s' with
  | mk pair s₂ =>
    obtain ⟨outcome, trace⟩ := pair
    rw [run_bind_of hr, run_map, hr]
    cases outcome <;> rfl

/-- A run that gets as far as resolving: the environment file, the command line and the filter for
the log are read, the command is to resolve, and the settings and the root come to the plan `p`. The
host is then in the state `s'`. -/
def Reaches (host : Host (StateM σ)) (env : Environment) (words : List Bytes) (s : σ) (p : Plan)
    (s' : σ) : Prop :=
  ∃ filled s₁ invocation,
    (EnvironmentFile.load? host env).run s = (some filled, s₁) ∧
    CommandLine.read filled words = .ok invocation ∧
    ¬LogFilter.Cut filled ∧
    invocation.command.getD .resolve = .resolve ∧
    (plan host invocation).run s₁ = (.ok p, s')

lemma Reaches.platform (h : Reaches host env words s p s') : p.config.platform = .current := by
  obtain ⟨filled, s₁, invocation, -, -, -, -, hplan⟩ := h
  obtain ⟨root, file, s₂, absoluteRoot, -, -, -, rfl⟩ := plan_eq_ok hplan
  rfl

end Program

end Locator
