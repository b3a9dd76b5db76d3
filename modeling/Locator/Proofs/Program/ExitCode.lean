import Locator.Proofs.CommandLine.Verbosity
import Locator.Proofs.EnvironmentFile.Frame
import Locator.Proofs.Program.Configuration
import Locator.Proofs.Program.Stages
import Locator.Proofs.Resolver.Plan
import Locator.World

/-! What a run ends with, and what its exit code and its output do not depend on. -/

namespace Locator

namespace CommandLine

variable {env₁ env₂ : Environment}

def SameStandIns (env₁ env₂ : Environment) : Prop :=
  ∀ opt : Opt, opt.standIn?.bind env₁.get? = opt.standIn?.bind env₂.get?

lemma Level.finish_congr (h : SameStandIns env₁ env₂) (level : Level) :
    level.finish env₁ = level.finish env₂ := by
  have hgap {α : Type} (opt : Opt) (given : Option α) (read : Bytes → Except UsageError α) :
      Options.gap env₁ opt given read = Options.gap env₂ opt given read := by
    unfold Options.gap
    rw [h opt]
  have hinherited (given : Options) : given.inherited env₁ = given.inherited env₂ := by
    simp only [Options.inherited, hgap]
  simp only [finish_eq, hinherited]

lemma read_congr (h : SameStandIns env₁ env₂) (words : List Bytes) :
    read env₁ words = read env₂ words := by
  simp only [read, Level.finish_congr h]

lemma Help.printed_congr (h : SameStandIns env₁ env₂) (page : Page) (long : Bool) :
    printed env₁ page long = printed env₂ page long := by
  have hremarks (opt : Opt) : remarks env₁ opt = remarks env₂ opt := by
    have hopt := h opt
    cases opt <;> simp_all [remarks, Opt.standIn?]
  have hentry (opt : Opt) : entry env₁ long opt = entry env₂ long opt := by
    simp only [entry, hremarks]
  have hoptions (scope : Option Command) : options env₁ scope long = options env₂ scope long := by
    simp only [options, funext hentry]
  have hbody : body env₁ long page = body env₂ long page := by
    cases page <;> simp only [body, hoptions]
  simp only [printed, styled, hbody]

end CommandLine

namespace Program

variable {host : Host Id} {env : Environment} {words : List Bytes} {invocation : Invocation}
  {p : Plan}

def outcome (host : Host Id) (env : Environment) (p : Plan) : Except Failure Resolution :=
  (((Trace.probe host env .process .log).resolve p.config p.request).run {}).1

def visible (output : Output) : Nat × String := (output.exitCode, output.stdout)

lemma run_resolve (host : Host Id) (env : Environment) (p : Plan) :
    ((resolve host env .log p).run {}).1 = (outcome host env p).mapError .failure := by
  cases hr : ((Trace.probe host env .process .log).resolve p.config p.request).run {} with
  | mk answer trace =>
    have houtcome : outcome host env p = answer := by rw [outcome, hr]
    rw [resolve, run_bind_of hr, houtcome]
    cases answer <;> rfl

lemma perform_eq (host : Host Id) (env : Environment) (filter : LogFilter)
    (invocation : Invocation) :
    perform host env filter invocation =
      match plan host invocation with
      | .error e => failed e ""
      | .ok p =>
        match invocation.command.getD .resolve with
        | .candidates => ⟨0, (report host p).text ++ "\n", ""⟩
        | .resolve =>
          let ran := (resolve host env .log p).run {}
          match ran.1 with
          | .ok resolution => ⟨0, resolution.path.display ++ "\n", logged filter ran.2⟩
          | .error e => failed e (logged filter ran.2) := by
  unfold perform
  rfl

def shown (host : Host Id) (env : Environment) (invocation : Invocation) : Nat × String :=
  match plan host invocation with
  | .error e => (e.exitCode, "")
  | .ok p =>
    match invocation.command.getD .resolve with
    | .candidates => (0, (report host p).text ++ "\n")
    | .resolve =>
      match outcome host env p with
      | .ok resolution => (0, resolution.path.display ++ "\n")
      | .error cause => ((ProgramError.failure cause).exitCode, "")

lemma visible_perform (host : Host Id) (env : Environment) (filter : LogFilter)
    (invocation : Invocation) :
    visible (perform host env filter invocation) = shown host env invocation := by
  rw [perform_eq, shown]
  cases plan host invocation with
  | error e => rfl
  | ok p =>
    cases invocation.command.getD .resolve with
    | candidates => rfl
    | resolve =>
      dsimp only
      rw [run_resolve]
      cases outcome host env p <;> rfl

lemma interpret_eq (host : Host Id) (env : Environment) (words : List Bytes) :
    interpret host env words =
      match CommandLine.read env words with
      | .error stop => stopped env stop
      | .ok invocation =>
        match LogFilter.ofEnvironment? env invocation.verbose with
        | none => aborted
        | some filter => perform host env filter invocation := rfl

lemma run_of_load {filled : Environment} (h : EnvironmentFile.load? host env = some filled)
    (words : List Bytes) : run host env words = interpret host filled words := by
  unfold run
  rw [h]
  rfl

lemma outcome_eq_unknown {raw : String} :
    outcome host env p = .error (.unknownStrategy raw) ↔
      p.request.trusted = true ∧ p.request.strategy = .unrecognized raw := by
  constructor
  · intro h
    apply Request.failure_eq_unknownStrategy.mp
    exact (Probe.failure_of_resolve h).symm
  · rintro ⟨ht, hs⟩
    exact Probe.resolve_unrecognized ht hs

/-- The words are read, and then a directive for the log is cut inside a character. -/
def Interrupted (env : Environment) (words : List Bytes) : Prop :=
  LogFilter.Cut env ∧ ∃ invocation, CommandLine.read env words = .ok invocation

lemma interpret_of_interrupted (h : Interrupted env words) :
    interpret host env words = aborted := by
  obtain ⟨hcut, invocation, hread⟩ := h
  rw [interpret_eq, hread]
  dsimp only
  rw [LogFilter.ofEnvironment?_eq_none_iff.mpr hcut]

lemma visible_interpret (hread : CommandLine.read env words = .ok invocation)
    (huncut : ¬LogFilter.Cut env) :
    visible (interpret host env words) = shown host env invocation := by
  obtain ⟨filter, hfilter⟩ := LogFilter.exists_of_not_cut huncut invocation.verbose
  rw [interpret_eq, hread]
  dsimp only
  rw [hfilter]
  exact visible_perform host env filter invocation

inductive Ends (host : Host Id) (env : Environment) (words : List Bytes) : Nat × String → Prop
  | rejected {e : CommandLine.UsageError} :
      CommandLine.read env words = .error (.usage e) → Ends host env words (2, "")
  | informed {stop : CommandLine.Stop} (text : String) :
      CommandLine.read env words = .error stop → (∀ e, stop ≠ .usage e) →
      Ends host env words (0, text)
  | interrupted : Interrupted env words → Ends host env words (101, "")
  | misconfigured {invocation : Invocation} :
      CommandLine.read env words = .ok invocation → Unconfigured host invocation →
      Ends host env words (78, "")
  | listed {invocation : Invocation} {p : Plan} (text : String) :
      CommandLine.read env words = .ok invocation → plan host invocation = .ok p →
      invocation.command.getD .resolve = .candidates → Ends host env words (0, text)
  | resolved {invocation : Invocation} {p : Plan} {resolution : Resolution} (text : String) :
      CommandLine.read env words = .ok invocation → plan host invocation = .ok p →
      invocation.command.getD .resolve = .resolve → outcome host env p = .ok resolution →
      Ends host env words (0, text)
  | unknown {invocation : Invocation} {p : Plan} {raw : String} :
      CommandLine.read env words = .ok invocation → plan host invocation = .ok p →
      invocation.command.getD .resolve = .resolve → p.request.trusted = true →
      p.request.strategy = .unrecognized raw → Ends host env words (78, "")
  | unavailable {invocation : Invocation} {p : Plan} {cause : Failure} :
      CommandLine.read env words = .ok invocation → plan host invocation = .ok p →
      invocation.command.getD .resolve = .resolve → outcome host env p = .error cause →
      (∀ raw, cause ≠ .unknownStrategy raw) → Ends host env words (69, "")

lemma ends_shown (hread : CommandLine.read env words = .ok invocation) :
    Ends host env words (shown host env invocation) := by
  unfold shown
  cases hp : plan host invocation with
  | error e =>
    obtain ⟨hunconfigured, hcode⟩ := unconfigured_of_plan hp
    dsimp only
    rw [hcode]
    exact .misconfigured hread hunconfigured
  | ok p =>
    cases hc : invocation.command.getD .resolve with
    | candidates => exact .listed _ hread hp hc
    | resolve =>
      dsimp only
      cases ho : outcome host env p with
      | ok resolution => exact .resolved _ hread hp hc ho
      | error cause =>
        cases cause with
        | unknownStrategy raw =>
          obtain ⟨ht, hs⟩ := outcome_eq_unknown.mp ho
          exact .unknown hread hp hc ht hs
        | _ => exact .unavailable hread hp hc ho (by simp)

lemma ends_interpret (host : Host Id) (env : Environment) (words : List Bytes) :
    Ends host env words (visible (interpret host env words)) := by
  cases hread : CommandLine.read env words with
  | error stop =>
    rw [interpret_eq, hread]
    cases stop with
    | usage e => exact .rejected hread
    | help page long => exact .informed _ hread (by simp)
    | version => exact .informed _ hread (by simp)
  | ok invocation =>
    by_cases hcut : LogFilter.Cut env
    · have hinterrupted : Interrupted env words := ⟨hcut, invocation, hread⟩
      rw [interpret_of_interrupted hinterrupted]
      exact .interrupted hinterrupted
    · rw [visible_interpret hread hcut]
      exact ends_shown hread

lemma Ends.code_mem {seen : Nat × String} (h : Ends host env words seen)
    (hgoes : ¬Interrupted env words) : seen.1 ∈ [0, 2, 69, 78] := by
  cases h with
  | interrupted hinterrupted => exact absurd hinterrupted hgoes
  | _ => simp

lemma Ends.silent {seen : Nat × String} (h : Ends host env words seen) (hcode : seen.1 ≠ 0) :
    seen.2 = "" := by
  cases h with
  | informed => exact absurd rfl hcode
  | listed => exact absurd rfl hcode
  | resolved => exact absurd rfl hcode
  | _ => rfl

lemma exitCode_eq_usage_iff :
    (interpret host env words).exitCode = 2 ↔
      ∃ e, CommandLine.read env words = .error (.usage e) := by
  constructor
  · intro hcode
    have hends := ends_interpret host env words
    change (visible (interpret host env words)).1 = 2 at hcode
    generalize visible (interpret host env words) = seen at hends hcode
    cases hends with
    | rejected hread => exact ⟨_, hread⟩
    | _ => simp at hcode
  · rintro ⟨e, hread⟩
    rw [interpret_eq, hread]
    rfl

lemma visible_resolving (hread : CommandLine.read env words = .ok invocation)
    (huncut : ¬LogFilter.Cut env) (hp : plan host invocation = .ok p)
    (hc : invocation.command.getD .resolve = .resolve) :
    visible (interpret host env words) =
      match outcome host env p with
      | .ok resolution => (0, resolution.path.display ++ "\n")
      | .error cause => ((ProgramError.failure cause).exitCode, "") := by
  rw [visible_interpret hread huncut, shown, hp]
  dsimp only
  rw [hc]

lemma Interrupted.uncut (hgoes : ¬Interrupted env words)
    (hread : CommandLine.read env words = .ok invocation) : ¬LogFilter.Cut env :=
  fun hcut => hgoes ⟨hcut, invocation, hread⟩

lemma exitCode_eq_config_iff (hgoes : ¬Interrupted env words) :
    (interpret host env words).exitCode = 78 ↔
      ∃ invocation, CommandLine.read env words = .ok invocation ∧
        (Unconfigured host invocation ∨
          invocation.command.getD .resolve = .resolve ∧ ∃ p raw, plan host invocation = .ok p ∧
            p.request.trusted = true ∧ p.request.strategy = .unrecognized raw) := by
  change (visible (interpret host env words)).1 = 78 ↔ _
  constructor
  · intro hcode
    have hends := ends_interpret host env words
    generalize visible (interpret host env words) = seen at hends hcode
    cases hends with
    | misconfigured hread h => exact ⟨_, hread, .inl h⟩
    | unknown hread hp hc ht hs => exact ⟨_, hread, .inr ⟨hc, _, _, hp, ht, hs⟩⟩
    | _ => simp at hcode
  · rintro ⟨invocation, hread, h | ⟨hc, p, raw, hp, hrequest⟩⟩
    · obtain ⟨e, hp⟩ := plan_of_unconfigured h
      rw [visible_interpret hread (Interrupted.uncut hgoes hread), shown, hp]
      exact (unconfigured_of_plan hp).2
    · rw [visible_resolving hread (Interrupted.uncut hgoes hread) hp hc,
        outcome_eq_unknown.mpr hrequest]
      rfl

lemma exitCode_eq_unavailable_iff (hgoes : ¬Interrupted env words) :
    (interpret host env words).exitCode = 69 ↔
      ∃ invocation p cause, CommandLine.read env words = .ok invocation ∧
        plan host invocation = .ok p ∧ invocation.command.getD .resolve = .resolve ∧
        outcome host env p = .error cause ∧ ∀ raw, cause ≠ .unknownStrategy raw := by
  change (visible (interpret host env words)).1 = 69 ↔ _
  constructor
  · intro hcode
    have hends := ends_interpret host env words
    generalize visible (interpret host env words) = seen at hends hcode
    cases hends with
    | unavailable hread hp hc ho hcause => exact ⟨_, _, _, hread, hp, hc, ho, hcause⟩
    | _ => simp at hcode
  · rintro ⟨invocation, p, cause, hread, hp, hc, ho, hcause⟩
    rw [visible_resolving hread (Interrupted.uncut hgoes hread) hp hc, ho]
    cases cause with
    | unknownStrategy raw => exact absurd rfl (hcause raw)
    | _ => rfl

lemma visible_interpret_verbose (hv : ¬CommandLine.HasVerboseFlag words) :
    visible (interpret host env (CommandLine.Opt.verbose.word :: words)) =
      visible (interpret host env words) := by
  have hloud := CommandLine.read_verbose env hv
  cases hread : CommandLine.read env words with
  | error stop =>
    rw [hread] at hloud
    rw [interpret_eq, interpret_eq, hloud, hread]
    rfl
  | ok invocation =>
    rw [hread] at hloud
    change _ = Except.ok (CommandLine.loud invocation) at hloud
    by_cases hcut : LogFilter.Cut env
    · rw [interpret_of_interrupted ⟨hcut, _, hloud⟩, interpret_of_interrupted ⟨hcut, _, hread⟩]
    · rw [visible_interpret hloud hcut, visible_interpret hread hcut]
      rfl

variable {env₁ env₂ : Environment}

lemma outcome_congr (h : Environment.SameBut LogFilter.variableName env₁ env₂) (p : Plan) :
    outcome host env₁ p = outcome host env₂ p := by
  have hhome : env₁.home = env₂.home := h.home (by decide)
  have hpath : env₁.get? "PATH" = env₂.get? "PATH" := h.get? (by decide)
  have hfind (name : String) :
      Search.find host env₁ .process name = Search.find host env₂ .process name := by
    simp only [Search.find, hhome, hpath]
  have hprobe : Trace.probe host env₁ .process .log = Trace.probe host env₂ .process .log := by
    have hcommand : Trace.find host env₁ .process = Trace.find host env₂ .process := by
      funext name
      simp only [Trace.find, hfind]
    simp only [Trace.probe, hcommand]
  simp only [outcome, hprobe]

lemma sameStandIns (h : Environment.SameBut LogFilter.variableName env₁ env₂) :
    CommandLine.SameStandIns env₁ env₂ := by
  have hget {name : String} (hn : name ≠ LogFilter.variableName) :
      env₁.get? name = env₂.get? name := h.get? hn
  intro opt
  cases opt with
  | extensionRoot => exact hget (by decide)
  | trusted => exact hget (by decide)
  | strategy => exact hget (by decide)
  | executablePath => exact hget (by decide)
  | _ => rfl

lemma visible_interpret_congr (h : Environment.SameBut LogFilter.variableName env₁ env₂)
    (hgoes₁ : ¬Interrupted env₁ words) (hgoes₂ : ¬Interrupted env₂ words) :
    visible (interpret host env₁ words) = visible (interpret host env₂ words) := by
  have hstandIns := sameStandIns h
  have hread : CommandLine.read env₁ words = CommandLine.read env₂ words :=
    CommandLine.read_congr hstandIns words
  cases hread₂ : CommandLine.read env₂ words with
  | error stop =>
    rw [interpret_eq, interpret_eq, hread, hread₂]
    cases stop with
    | usage e => rfl
    | help page long =>
      simp only [visible, stopped, CommandLine.Help.printed_congr hstandIns]
    | version => rfl
  | ok invocation =>
    have hread₁ := hread.trans hread₂
    rw [visible_interpret hread₁ (Interrupted.uncut hgoes₁ hread₁),
      visible_interpret hread₂ (Interrupted.uncut hgoes₂ hread₂)]
    -- a plan asks the host alone; only the search for a command looks at variables
    simp only [shown, outcome_congr h]

end Program

def World.withEnvironmentFile (content : Bytes) : World where
  tree := ⟨[([Utf8.encode ".env"], .file 0o644 content)]⟩

lemma World.inForce_withEnvironmentFile (content : Bytes) :
    EnvironmentFile.inForce (withEnvironmentFile content).host =
      EnvironmentFile.assignments content := by
  have hfind : EnvironmentFile.find (withEnvironmentFile content).host =
      some (.ofString "/.env") := by with_unfolding_all rfl
  have hread : (withEnvironmentFile content).host.read (.ofString "/.env") = .ok content := rfl
  rw [EnvironmentFile.inForce, hfind]
  dsimp only
  rw [hread]

lemma World.load?_withEnvironmentFile (content : Bytes) (env : Environment) :
    EnvironmentFile.load? (withEnvironmentFile content).host env =
      EnvironmentFile.fill? env content := by
  rw [EnvironmentFile.load?_eq, inForce_withEnvironmentFile]
  rfl

namespace Program

def homely : Bytes := Utf8.encode "JARL_EXTENSION_ROOT=$\x7bHOME\x7d/x\nRUST_LOG=warn\n"

def entangled : Bytes := Utf8.encode "JARL_EXTENSION_ROOT=$\x7bRUST_LOG\x7d\n"

end Program

end Locator
