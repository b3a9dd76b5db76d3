import Locator.Proofs.Program.Stages
import Locator.Proofs.Resolver.Attempts
import Locator.World

namespace Locator

namespace Config

def untrustedOutcome (config : Config) (present : Bool) : Except Failure Resolution :=
  if present then .ok ⟨config.bundledPath, .bundled⟩
  else .error (.untrustedBundledMissing config.bundledPath)

def untrustedNotes (config : Config) (present : Bool) : List Note :=
  if present then
    [.untrusted config.bundledPath, .foundBundled config.bundledPath,
      .using ⟨config.bundledPath, .bundled⟩]
  else [.untrusted config.bundledPath, .missedBundled config.bundledPath]

end Config

lemma Request.plan?_untrusted {request : Request} (ht : request.trusted = false) :
    request.plan? = some [.bundled] := by
  simp [plan?, ht]

lemma Ports.resolve_untrusted {m : Type → Type} [Monad m] [LawfulMonad m] (ports : Ports m)
    (config : Config) {request : Request} (ht : request.trusted = false) :
    ports.resolve config request =
      (fun present => (config.untrustedOutcome present,
        ⟨config.untrustedNotes present, [.isPresent config.bundledPath present]⟩)) <$>
        ports.isPresent config.bundledPath := by
  rw [resolve_of_plan ports config request (Request.plan?_untrusted ht)]
  simp only [search, attempt, bind_map_left, map_bind]
  rw [← bind_pure_comp]
  apply bind_congr
  intro present
  cases present <;>
    simp [Attempt.found?, Attempt.conclude, Attempt.resolution?, Attempt.source, Attempt.narrate,
      Attempt.note, Attempt.exchange?, Transcript.searched, Request.opening, Request.failure, ht,
      Config.untrustedOutcome, Config.untrustedNotes]

namespace Program

lemma run_resolve_untrusted {m : Type → Type} [Monad m] [LawfulMonad m] (host : Host m)
    (env : Environment) (sink : Sink) (p : Plan) (ht : p.request.trusted = false) (t : Trace) :
    Prod.fst <$> (resolve host env sink p).run t =
      (fun present => (p.config.untrustedOutcome present).mapError .failure) <$>
        host.isPresent p.config.bundledPath := by
  simp only [resolve, Probe.resolve, ht, Bool.false_eq_true, if_false, Probe.resolveUntrusted,
    Probe.lookupBundled, StateT.run_bind, Trace.run_probe_log, Trace.run_probe_note,
    Trace.run_probe_isPresent, bind_assoc, pure_bind, map_bind, bind_map_left]
  rw [← bind_pure_comp]
  apply bind_congr
  intro present
  cases present <;> simp [Config.untrustedOutcome, Probe.select]

lemma outcome_of_untrusted {σ : Type} (host : Host (StateM σ)) (env : Environment) (p : Plan)
    (ht : p.request.trusted = false) (s : σ) :
    (((resolve host env .log p).run {}).run s).1.1 =
      (p.config.untrustedOutcome ((host.isPresent p.config.bundledPath).run s).1).mapError
        .failure :=
  congrArg (fun x => (StateT.run x s).1) (run_resolve_untrusted host env .log p ht {})

def untrustedOutput (config : Config) (present : Bool) : Nat × String :=
  if present then (0, config.bundledPath.display ++ "\n") else (69, "")

lemma run_of_reaches {σ : Type} {host : Host (StateM σ)} {env : Environment}
    {words : List Bytes} {s s' : σ} {p : Plan} (h : Reaches host env words s p s')
    (ht : p.request.trusted = false) :
    let output := ((run host env words).run s).1
    (output.exitCode, output.stdout) =
      untrustedOutput p.config ((host.isPresent p.config.bundledPath).run s').1 := by
  obtain ⟨filled, s₁, invocation, hload, hread, huncut, hcommand, hplan⟩ := h
  obtain ⟨filter, hfilter⟩ := LogFilter.exists_of_not_cut huncut invocation.verbose
  have houtcome := outcome_of_untrusted host filled p ht s'
  rw [run_of_plan hload hread hfilter hcommand hplan, run_map]
  cases hr : ((resolve host filled .log p).run {}).run s' with
  | mk pair s'' =>
    obtain ⟨outcome, trace⟩ := pair
    rw [hr] at houtcome
    change outcome = _ at houtcome
    rw [houtcome]
    cases ((host.isPresent p.config.bundledPath).run s').1 <;> rfl

end Program

def Host.steady (host : Host Id) : Host (StateM Unit) where
  workingDirectory := pure host.workingDirectory
  status path := pure (host.status path)
  read path := pure (host.read path)

/-- The extension is at `/x`, and at `/s` are settings that ask for the configured path. -/
def World.sample : World where
  tree := ⟨[([[0x78]], .directory), ([[0x78], Utf8.encode "bundled"], .directory),
    ([[0x78], Utf8.encode "bundled", Utf8.encode "bin"], .directory),
    ([[0x78], Utf8.encode "bundled", Utf8.encode "bin", Utf8.encode "jarl"], .file 0o755 []),
    ([[0x73]], .file 0o644 (Utf8.encode "[\"path\"]"))]⟩

lemma World.load?_sample (env : Environment) :
    EnvironmentFile.load? sample.host env = some env := by
  with_unfolding_all rfl

def Environment.plain : Environment := { entries := [("JARL_EXTENSION_ROOT", Utf8.encode "/x")] }

def Environment.hostile : Environment :=
  { entries := [("JARL_EXTENSION_ROOT", Utf8.encode "/x"),
      ("JARL_EXECUTABLE_PATH", Utf8.encode "/evil"), ("PATH", Utf8.encode "/evil")] }

lemma reaches_plain :
    Program.Reaches World.sample.host.steady .plain [] ()
      ⟨⟨.ofString "/x", .current⟩, ⟨false, default, none⟩⟩ () :=
  ⟨.plain, (), { extensionRoot := some (.ofString "/x") }, by with_unfolding_all rfl, rfl,
    LogFilter.not_cut_of_unset rfl, rfl, rfl⟩

lemma reaches_hostile :
    Program.Reaches World.sample.host.steady .hostile [Utf8.encode "--settings=/s"] ()
      ⟨⟨.ofString "/x", .current⟩, ⟨false, .known .path, some "/evil"⟩⟩ () :=
  ⟨.hostile, (),
    { extensionRoot := some (.ofString "/x")
      executablePath := some "/evil"
      settings := some (.ofString "/s") }, by with_unfolding_all rfl, by with_unfolding_all rfl,
    LogFilter.not_cut_of_unset rfl, rfl, by with_unfolding_all rfl⟩

end Locator
