import Locator.Proofs.Resolver.Narration
import Locator.Proofs.Resolver.Simulation
import Locator.Proofs.Session.Forgetting
import Mathlib.Data.List.DropRight

namespace Locator

def Transcript.recording (t : Transcript) : Recording := ⟨t.lines, t.questions⟩

lemma Transcript.recording_record (t : Transcript) (e : Exchange) :
    (t.record e).recording =
      { t.recording with questions := t.recording.questions ++ [e.question] } := by
  simp [recording, record, questions, lines]

lemma Transcript.recording_note (t : Transcript) (n : Note) :
    (t.note n).recording = { t.recording with lines := t.recording.lines ++ [n.text] } := by
  rw [recording, lines_note]
  rfl

namespace Session

def Step.emptiesJournal : Step → Bool
  | .takeLines => true
  | .newJournal => true
  | _ => false

variable (s : Session)

def attempt (explicitPath : Option String) : Source → Attempt
  | .bundled => .bundled s.config.bundledPath (s.present.contains s.config.bundledPath)
  | .environment =>
    .environment s.config.platform.binaryName (s.commands.lookup s.config.platform.binaryName)
  | .explicit =>
    match explicitPath with
    | none => .unset
    | some raw =>
      if raw = "" then .unset else .explicit (.ofString raw) (s.present.contains (.ofString raw))

def attempts (explicitPath : Option String) : List Source → List Attempt
  | [] => []
  | source :: rest =>
    let a := s.attempt explicitPath source
    if a.found?.isSome then [a] else a :: attempts explicitPath rest

/-- The lines that a step is to write: a line that is handed in, the finding of a look-up, and the
account of a resolution. -/
def linesOf : Step → List String
  | .append line => [line]
  | .lookupBundled => [(s.attempt none .bundled).line]
  | .lookupEnvironment => [(s.attempt none .environment).line]
  | .lookupExplicit path => [(s.attempt path .explicit).line]
  | .resolve request =>
    let tried := s.attempts request.explicitPath (request.plan?.getD [])
    (if request.trusted then [] else
      ["Workspace is not trusted, using bundled executable: " ++ s.config.bundledPath.display]) ++
    Attempt.told tried ++ closing (Attempt.conclude (request.failure s.config) tried)
  | _ => []

def entries (s : Session) : List Step → List (Step × List String)
  | [] => []
  | first :: rest => (first, s.linesOf first) :: (s.step first).1.entries rest

def ledger (steps : List Step) : List String :=
  ((s.entries steps).rtakeWhile fun entry => !entry.1.emptiesJournal).flatMap Prod.snd

lemma run_concat (steps : List Step) (step : Step) :
    s.run (steps ++ [step]) =
      (((s.run steps).1.step step).1, (s.run steps).2 ++ [((s.run steps).1.step step).2]) := by
  induction steps generalizing s with
  | nil => rfl
  | cons first rest ih => simp only [List.cons_append, run, ih]

lemma entries_concat (steps : List Step) (step : Step) :
    s.entries (steps ++ [step]) =
      s.entries steps ++ [(step, (s.run steps).1.linesOf step)] := by
  induction steps generalizing s with
  | nil => rfl
  | cons first rest ih => simp only [List.cons_append, entries, run, ih]

lemma ledger_concat (steps : List Step) (step : Step) :
    s.ledger (steps ++ [step]) =
      if step.emptiesJournal then [] else s.ledger steps ++ (s.run steps).1.linesOf step := by
  cases hs : step.emptiesJournal <;> simp [ledger, entries_concat, hs]

def ports : Ports (StateM Unit) where
  isPresent path := pure (s.present.contains path)
  findCommand name := pure (s.commands.lookup name)

lemma ports_attempt (request : Request) (source : Source) :
    s.ports.attempt s.config request source = pure (s.attempt request.explicitPath source) := by
  cases source with
  | bundled => rfl
  | environment => rfl
  | explicit =>
    unfold Ports.attempt attempt Request.configured?
    cases request.explicitPath with
    | none => rfl
    | some raw =>
      by_cases hraw : raw = ""
      · simp only [hraw, if_true]
      · simp only [hraw, if_false]
        rfl

lemma ports_search (request : Request) (plan : List Source) :
    ((s.ports.search s.config request plan).run ()).1 =
      s.attempts request.explicitPath plan := by
  induction plan with
  | nil => rfl
  | cons source rest ih =>
    have ha : (s.ports.attempt s.config request source).run () =
        (s.attempt request.explicitPath source, ()) := by
      rw [ports_attempt]
      rfl
    rw [Ports.run_search_cons s.ports s.config request ha, attempts, ih]
    split <;> rfl

lemma ports_faithful (request : Request) :
    let ran := ((s.ports.resolve s.config request).run ()).1
    Faithful s.config request ran.1 ran.2
      (s.attempts request.explicitPath (request.plan?.getD [])) := by
  cases hp : request.plan? with
  | none => exact s.ports.faithful_of_no_plan s.config request () hp
  | some plan =>
    rw [← ports_search]
    exact s.ports.faithful_of_plan s.config request () hp

lemma ports_outcome (request : Request) :
    ((s.ports.resolve s.config request).run ()).1.1 =
      Attempt.conclude (request.failure s.config)
        (s.attempts request.explicitPath (request.plan?.getD [])) := by
  cases hp : request.plan? with
  | none =>
    rw [Ports.run_resolve_of_no_plan s.ports s.config request () hp]
    rfl
  | some plan =>
    rw [Ports.run_resolve_of_plan s.ports s.config request () hp, ports_search]
    rfl

def transcribed : Simulation (StateT Transcript (StateM Unit)) (StateM Recording) where
  Rel x y := ∀ t : Transcript,
    y.run t.recording = (((x.run t).run ()).1.1, ((x.run t).run ()).1.2.recording)
  pure a t := rfl
  bind {_ _ _ _ f g} hxy hfg t := by
    rw [run_bind_of (hxy t)]
    exact hfg _ _

lemma probe_related : Probe.Related transcribed s.ports.probe s.probe where
  isPresent path t :=
    congrArg (Prod.mk _) (t.recording_record (.isPresent path (s.present.contains path))).symm
  findCommand name t :=
    congrArg (Prod.mk _) (t.recording_record (.findCommand name (s.commands.lookup name))).symm
  note n t := congrArg (Prod.mk _) (t.recording_note n).symm
  log _ _ := rfl

lemma step_resolve (request : Request) :
    let ran := ((s.ports.resolve s.config request).run ()).1
    (s.step (.resolve request)).2 = ⟨.resolution ran.1, ran.2.recording⟩ := by
  intro ran
  have hrun : (s.probe.resolve s.config request).run {} = (ran.1, ran.2.recording) :=
    s.probe_related.resolve s.config request {}
  simp only [step, consult, run_map, hrun]

lemma lines_lookup (request : Request) (source : Source) :
    ((s.probe.lookup s.config request source).run {}).2.lines =
      [(s.attempt request.explicitPath source).line] := by
  have hrun := s.probe_related.lookup s.config request source {}
  rw [Ports.run_lookup, ports_attempt] at hrun
  exact congrArg (fun ran => ran.2.lines) hrun

lemma lines_checkExplicit (raw? : Option String) :
    ((s.probe.checkExplicit raw?).run {}).2.lines = [] := by
  cases raw? with
  | none => rfl
  | some raw =>
    simp only [Probe.checkExplicit]
    split
    · rfl
    · have hasked : (s.probe.isPresent (.ofString raw)).run {} =
          (s.present.contains (.ofString raw), ⟨[], [.isPresent (.ofString raw)]⟩) := rfl
      rw [run_bind_of hasked]
      cases s.present.contains (.ofString raw) with
      | true => rfl
      | false => rfl

lemma lines_step (step : Step) : (s.step step).2.recording.lines = s.linesOf step := by
  cases step with
  | addFile path =>
    simp only [Session.step]
    split <;> rfl
  | removeFile path =>
    simp only [Session.step]
    split <;> rfl
  | resolve request =>
    rw [step_resolve]
    refine (s.ports_faithful request).lines.trans ?_
    rw [ports_outcome]
    rfl
  | lookupBundled => exact s.lines_lookup ⟨true, default, none⟩ .bundled
  | lookupEnvironment => exact s.lines_lookup ⟨true, default, none⟩ .environment
  | lookupExplicit path => exact s.lines_lookup ⟨true, default, path⟩ .explicit
  | checkExplicit path => exact s.lines_checkExplicit path
  | _ => rfl

lemma journal_step (step : Step) :
    (s.step step).1.journal =
      if step.emptiesJournal then [] else s.journal ++ s.linesOf step := by
  rw [← lines_step]
  have hquiet (t : Session) (result : Result) :
      (t.reply result).1.journal = t.journal ++ (t.reply result).2.recording.lines :=
    (List.append_nil _).symm
  cases step with
  | addFile path =>
    simp only [Session.step]
    split
    · exact hquiet _ _
    · exact hquiet _ _
  | removeFile path =>
    simp only [Session.step]
    split
    · exact hquiet _ _
    · exact hquiet _ _
  | setCommand name path => exact hquiet _ _
  | bundledPath => exact hquiet _ _
  | lines => exact hquiet _ _
  | cloneResolver => exact hquiet _ _
  | _ => rfl

lemma journal_run (hstart : s.journal = []) (steps : List Step) :
    (s.run steps).1.journal = s.ledger steps := by
  induction steps using List.reverseRecOn with
  | nil => exact hstart
  | append_singleton steps step ih => rw [run_concat, journal_step, ih, ledger_concat]

lemma lines_run (steps : List Step) :
    (s.run steps).2.map (·.recording.lines) = (s.entries steps).map Prod.snd := by
  induction steps generalizing s with
  | nil => rfl
  | cons first rest ih => simp only [run, entries, List.map_cons, lines_step, ih]

/-- At every point of a session the journal holds the lines that all steps since it was last
emptied are to write, in order. Taking them leaves nothing behind, and no other step but a change of
journals touches them. A resolution writes the lines that are true to it whether it fails or
not. -/
theorem journal_is_ledger (config : Config) (present : List Path)
    (commands : List (String × Path)) (steps : List Step) :
    let start : Session := ⟨config, present, commands, []⟩
    let now := (start.run steps).1
    let kept := start.ledger steps
    (start.run steps).2.map (·.recording.lines) = (start.entries steps).map Prod.snd ∧
    now.journal = kept ∧
    (now.step .lines).2.result = .lines kept ∧
    (now.step .takeLines).2.result = .lines kept ∧
    (∀ step, step.emptiesJournal = true → (now.step step).1.journal = []) ∧
    (∀ step, step.emptiesJournal = false →
      (now.step step).1.journal = kept ++ now.linesOf step) ∧
    ∀ request, ∃ outcome t attempts, Faithful config request outcome t attempts ∧
      (now.step (.resolve request)).2 = ⟨.resolution outcome, ⟨t.lines, t.questions⟩⟩ ∧
      (now.step (.resolve request)).1.journal = kept ++ t.lines := by
  intro start now kept
  have hkept : now.journal = kept := start.journal_run rfl steps
  have hgrows : ∀ step, step.emptiesJournal = false →
      (now.step step).1.journal = kept ++ now.linesOf step := by
    intro step hstep
    rw [journal_step, hstep, hkept]
    rfl
  refine ⟨start.lines_run steps, hkept, congrArg Result.lines hkept, congrArg Result.lines hkept,
    ?_, hgrows, ?_⟩
  · intro step hstep
    rw [journal_step, hstep]
    rfl
  · intro request
    have hconfig : now.config = config := start.config_run steps
    have hfaithful := now.ports_faithful request
    rw [hconfig] at hfaithful
    have hanswer := now.step_resolve request
    rw [hconfig] at hanswer
    refine ⟨_, _, _, hfaithful, hanswer, ?_⟩
    rw [hgrows _ rfl, ← lines_step, hanswer]
    rfl

end Session

end Locator
