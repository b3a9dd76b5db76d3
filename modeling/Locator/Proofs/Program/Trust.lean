import Locator.Proofs.EnvironmentFile.Assignments
import Locator.Proofs.Isolation
import Locator.Proofs.Program.ExitCode
import Locator.Proofs.Program.Observation
import Locator.Proofs.Program.Precedence

namespace Locator.Program

open CommandLine (Opt MeansSwitch readSwitch_eq_ok)

variable {host : Host Id} {env : Environment} {words : List Bytes} {invocation : Invocation}
  {command : Command} {p : Plan}

def trustVariable : String := "JARL_WORKSPACE_TRUSTED"

def GrantsTrust (host : Host Id) (env : Environment) : Prop :=
  ∃ raw, EnvironmentFile.Gives (EnvironmentFile.inForce host) env trustVariable raw ∧
    MeansSwitch raw true

lemma trusted_of_plan (h : plan host invocation = .ok p) :
    p.request.trusted = invocation.trusted := by
  rw [plan_eq] at h
  split at h
  · cases h
  · split at h
    · cases h
    · split at h
      · cases h
      · cases h
        rfl

lemma trusted_of_read (hwords : Opt.trusted.mentions words = [])
    (hread : CommandLine.read env words = .ok invocation) :
    invocation.trusted = true ↔
      ∃ raw, env.get? trustVariable = some raw ∧ MeansSwitch raw true := by
  have hdecides := decides_trusted hread
  change CommandLine.Decides _ _ (env.get? trustVariable) _ _ at hdecides
  rw [hwords] at hdecides
  cases hraw : env.get? trustVariable with
  | none =>
    rw [hraw] at hdecides
    simp [hdecides.of_nothing]
  | some raw =>
    rw [hraw] at hdecides
    have hmeans := readSwitch_eq_ok.mpr hdecides.of_held
    simp [← readSwitch_eq_ok, hmeans]

lemma trusted_iff_grantsTrust (hwords : Opt.trusted.mentions words = [])
    (henv : env.get? trustVariable = none) (h : Plans host env words command p) :
    p.request.trusted = true ↔ GrantsTrust host env := by
  obtain ⟨filled, invocation, hload, hread, -, -, hp⟩ := h
  rw [EnvironmentFile.load?_eq] at hload
  rw [trusted_of_plan hp, trusted_of_read hwords hread]
  apply exists_congr
  intro raw
  rw [EnvironmentFile.get?_eq_some_iff_gives hload henv]

lemma eq_of_mapError_failure {x y : Except Failure Resolution}
    (h : x.mapError ProgramError.failure = y.mapError .failure) : x = y := by
  cases x <;> cases y <;> simp_all

lemma outcome_untrusted (ht : p.request.trusted = false) :
    outcome host env p = p.config.untrustedOutcome (host.isPresent p.config.bundledPath) := by
  apply eq_of_mapError_failure
  exact (run_resolve host env p).symm.trans (run_resolve_untrusted host env .log p ht {})

lemma visible_of_plans (h : Plans host env words .resolve p) (ht : p.request.trusted = false) :
    visible (run host env words) =
      untrustedOutput p.config (host.isPresent p.config.bundledPath) := by
  obtain ⟨filled, invocation, hload, hread, huncut, hcommand, hp⟩ := h
  rw [run_of_load hload, visible_resolving hread huncut hp hcommand, outcome_untrusted ht]
  cases host.isPresent p.config.bundledPath <;> rfl

/-- With no word for it and no variable in the process, a workspace is trusted exactly when the
environment file grants it. Where it does not, the run asks its host nothing that bears on a search
path or a configured path, and when it resolves it prints the bundled path or none. The list of
candidates is another matter: it shows the configured path, as a text that nobody has looked up. -/
theorem trusted_only_by_environment_file (host : Host Id) (env : Environment) (words : List Bytes)
    (hwords : Opt.trusted.mentions words = []) (henv : env.get? trustVariable = none) :
    (∀ command p, Plans host env words command p →
      (p.request.trusted = true ↔ GrantsTrust host env)) ∧
    (¬GrantsTrust host env →
      (∃ asked, (run host.observed env words).run [] = (run host env words, asked) ∧
        ∀ q ∈ asked, Permitted host env words q) ∧
      ∀ p, Plans host env words .resolve p →
        visible (run host env words) =
          untrustedOutput p.config (host.isPresent p.config.bundledPath)) := by
  have hgranted (command : Command) (p : Plan) (h : Plans host env words command p) :
      p.request.trusted = true ↔ GrantsTrust host env := trusted_iff_grantsTrust hwords henv h
  refine ⟨hgranted, ?_⟩
  intro hnot
  have huntrusted (command : Command) (p : Plan) (h : Plans host env words command p) :
      p.request.trusted = false := by
    rw [← Bool.not_eq_true, hgranted command p h]
    exact hnot
  refine ⟨?_, ?_⟩
  · obtain ⟨asked, hrun, hpermitted⟩ := asks_run_untrusted huntrusted []
    exact ⟨asked, hrun, hpermitted⟩
  · intro p h
    exact visible_of_plans h (huntrusted .resolve p h)

def selfish (answer : String) : Bytes :=
  Utf8.encode ("JARL_WORKSPACE_TRUSTED=" ++ answer ++
    "\nJARL_EXECUTABLE_STRATEGY=path\nJARL_EXECUTABLE_PATH=/evil\n")

def selfishWorld (answer : String) : World where
  tree := ⟨[([Utf8.encode ".env"], .file 0o644 (selfish answer)),
    ([Utf8.encode "evil"], .file 0o755 [])]⟩

def rootWords : List Bytes := [Utf8.encode "--extension-root=/x"]

lemma load?_selfish (answer : String) (env : Environment) :
    EnvironmentFile.load? (selfishWorld answer).host env =
      EnvironmentFile.fill? env (selfish answer) := by
  have hfind : EnvironmentFile.find (selfishWorld answer).host = some (.ofString "/.env") := by
    with_unfolding_all rfl
  have hread : (selfishWorld answer).host.read (.ofString "/.env") = .ok (selfish answer) := rfl
  rw [EnvironmentFile.load?_eq, EnvironmentFile.inForce, hfind]
  dsimp only
  rw [hread]
  rfl

lemma plans_selfish {answer : String} {trusted : Bool} {filled : Environment}
    (hfill : EnvironmentFile.fill? {} (selfish answer) = some filled)
    (huncut : ¬LogFilter.Cut filled)
    (hread : CommandLine.read filled rootWords =
      .ok { extensionRoot := some (.ofString "/x"), trusted, strategy := some "path",
            executablePath := some "/evil" }) :
    Plans (selfishWorld answer).host {} rootWords .resolve
      ⟨⟨.ofString "/x", .current⟩, ⟨trusted, .known .path, some "/evil"⟩⟩ := by
  have hload := (load?_selfish answer {}).trans hfill
  refine ⟨filled, _, hload, hread, huncut, rfl, ?_⟩
  exact plan_of_stages rfl rfl ((absolute_eq _ _).trans (if_pos (by decide)))

def filledBy (answer : String) : Environment :=
  { entries := [("JARL_EXECUTABLE_PATH", Utf8.encode "/evil"),
      ("JARL_EXECUTABLE_STRATEGY", Utf8.encode "path"),
      ("JARL_WORKSPACE_TRUSTED", Utf8.encode answer)] }

theorem trusted_only_by_environment_file_refusing :
    let host := (selfishWorld "no").host
    (∃ asked, (run host.observed {} rootWords).run [] = (run host {} rootWords, asked) ∧
      ∀ q ∈ asked, Permitted host {} rootWords q) ∧
      visible (run host {} rootWords) = (69, "") := by
  intro host
  have hplans : Plans host {} rootWords .resolve
      ⟨⟨.ofString "/x", .current⟩, ⟨false, .known .path, some "/evil"⟩⟩ :=
    plans_selfish (show _ = some (filledBy "no") by decide +kernel) (LogFilter.not_cut_of_unset rfl)
      (by decide +kernel)
  obtain ⟨hgranted, hkept⟩ := trusted_only_by_environment_file host {} rootWords (by decide) rfl
  have hnot : ¬GrantsTrust host {} := by
    rw [← hgranted .resolve _ hplans]
    exact Bool.false_ne_true
  obtain ⟨hasked, hprinted⟩ := hkept hnot
  have habsent : (selfishWorld "no").host.isPresent
      (⟨.ofString "/x", .current⟩ : Config).bundledPath = false := rfl
  refine ⟨hasked, (hprinted _ hplans).trans ?_⟩
  rw [habsent]
  rfl

lemma outcome_explicit {raw : String} (ht : p.request.trusted = true)
    (hs : p.request.strategy = .known .path) (hpath : p.request.explicitPath = some raw)
    (hraw : raw ≠ "") (hpresent : host.isPresent (.ofString raw) = true) :
    outcome host env p = .ok ⟨.ofString raw, .explicit⟩ := by
  have hasked : host.isPresent (.ofString raw) = (pure true : Id Bool) := hpresent
  simp only [outcome, Probe.resolve, ht, hs, hpath, if_true, Probe.resolveExplicit,
    Probe.lookupExplicit, Probe.checkExplicit, if_neg hraw, Probe.select, StateT.run_bind,
    StateT.run_pure, Trace.run_probe_log, Trace.run_probe_note, Trace.run_probe_isPresent, hasked,
    map_pure, pure_bind]
  rfl

lemma visible_explicit {raw : String} (h : Plans host env words .resolve p)
    (ht : p.request.trusted = true) (hs : p.request.strategy = .known .path)
    (hpath : p.request.explicitPath = some raw) (hraw : raw ≠ "")
    (hpresent : host.isPresent (.ofString raw) = true) :
    visible (run host env words) = (0, raw ++ "\n") := by
  obtain ⟨filled, invocation, hload, hread, huncut, hcommand, hp⟩ := h
  have hdisplay : (Path.ofString raw).display = raw := Utf8.display_encode raw
  rw [run_of_load hload, visible_resolving hread huncut hp hcommand,
    outcome_explicit ht hs hpath hraw hpresent]
  dsimp only
  rw [hdisplay]

theorem environment_file_grants_itself_trust :
    let host := (selfishWorld "yes").host
    Opt.trusted.mentions rootWords = [] ∧ ({} : Environment).get? trustVariable = none ∧
      (∃ p, Plans host {} rootWords .resolve p ∧ p.request.trusted = true ∧
        p.config.bundledPath ≠ .ofString "/evil") ∧
      visible (run host {} rootWords) = (0, "/evil\n") := by
  intro host
  let p : Plan := ⟨⟨.ofString "/x", .current⟩, ⟨true, .known .path, some "/evil"⟩⟩
  have hplans : Plans host {} rootWords .resolve p :=
    plans_selfish (show _ = some (filledBy "yes") by decide +kernel)
      (LogFilter.not_cut_of_unset rfl) (by decide +kernel)
  have hpresent : host.isPresent (.ofString "/evil") = true := rfl
  exact ⟨by decide, rfl, ⟨p, hplans, rfl, by decide +kernel⟩,
    visible_explicit hplans rfl rfl rfl (by decide) hpresent⟩

end Locator.Program
