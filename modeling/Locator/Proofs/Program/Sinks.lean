import Locator.Proofs.Program.Stages
import Locator.Proofs.Resolver.Narration
import Locator.Proofs.Resolver.Simulation

/-! A trace whose notes were logged, diverted, is the trace whose notes were kept. -/

namespace Locator

namespace Event

def isNote (e : Event) : Bool := e.target = "jarl_locate::resolve"

lemma isNote_iff {e : Event} : e.isNote = true ↔ ∃ text, e = .note text := by
  cases e <;> simp [isNote, target]

end Event

namespace Probe

variable {m : Type → Type} [Monad m]

def silent (probe : Probe m) : Probe m := { probe with log := fun _ => pure () }

lemma resolve_eq_silent [LawfulMonad m] (probe : Probe m) (config : Config) (request : Request) :
    probe.resolve config request = (do
      probe.log (.resolving config request)
      probe.silent.resolve config request) := by
  have hlog : probe.silent.log (.resolving config request) = pure () := rfl
  rw [resolve, resolve, hlog, pure_bind]
  rfl

end Probe

namespace Trace

def diverted (t : Trace) : Trace where
  events := t.events.filter (!·.isNote)
  lines := (t.events.filter Event.isNote).map Event.message

lemma diverted_log (t : Trace) {e : Event} (he : e.isNote = false) :
    ({ t with events := t.events ++ [e] } : Trace).diverted =
      { t.diverted with events := t.diverted.events ++ [e] } := by
  simp [diverted, he]

lemma diverted_note (t : Trace) (text : String) :
    ({ t with events := t.events ++ [.note text] } : Trace).diverted =
      { t.diverted with lines := t.diverted.lines ++ [text] } := by
  have hnote : (Event.note text).isNote = true := Event.isNote_iff.mpr ⟨text, rfl⟩
  have hmessage : (Event.note text).message = text := rfl
  simp [diverted, hnote, hmessage]

variable {m : Type → Type} [Monad m]

/-- A resolution on a host whose searches may be cancelled; they then have no outcome. -/
def probeOver (isPresent : Path → m Bool) (look : String → m (Option (Except SearchMiss Path)))
    (sink : Sink) : Probe (StateT Trace m) where
  isPresent path := StateT.lift (isPresent path)
  findCommand name := do searched name (← StateT.lift (look name))
  note := note sink
  log := log

variable [LawfulMonad m]

lemma probe_eq (host : Host m) (env : Environment) (search : SearchPath) (sink : Sink) :
    probe host env search sink =
      probeOver host.isPresent (fun name => some <$> Search.find host env search name) sink := by
  have hfind (name : String) : find host env search name = (do
      searched name (← StateT.lift (some <$> Search.find host env search name))) := by
    apply StateT.ext
    intro t
    simp [find]
  simp only [probe, probeOver, ← hfind]

def diversion (m : Type → Type) [Monad m] [LawfulMonad m] :
    Simulation (StateT Trace m) (StateT Trace m) where
  Rel x y := ∀ t, y.run t.diverted = (fun ran => (ran.1, ran.2.diverted)) <$> x.run t
  pure a t := by simp
  bind hxy hfg t := by simp [hxy, hfg]

lemma diversion_log {e : Event} (he : e.isNote = false) :
    (diversion m).Rel (log e) (log e) := by
  intro t
  rw [run_log, run_log, map_pure, diverted_log t he]

lemma diversion_searched (name : String) (found : Option (Except SearchMiss Path)) :
    (diversion m).Rel (searched name found) (searched name found) := by
  rcases found with _ | cause | path
  · exact (diversion m).bind (diversion_log rfl) fun _ => (diversion m).pure none
  · exact (diversion m).bind (diversion_log rfl) fun _ => (diversion m).pure none
  · exact (diversion m).pure (some path)

lemma diversion_note (n : Note) : (diversion m).Rel (note .log n) (note .keep n) := by
  intro t
  have hlog : (note .log n : StateT Trace m Unit).run t = pure ((), t.noted n .log) := rfl
  have hkeep : (note .keep n : StateT Trace m Unit).run t.diverted =
      pure ((), t.diverted.noted n .keep) := rfl
  rw [hlog, hkeep, map_pure]
  exact congrArg (fun u => pure ((), u)) (t.diverted_note n.text).symm

lemma diversion_lift {α : Type} (x : m α) : (diversion m).Rel (StateT.lift x) (StateT.lift x) := by
  intro t
  simp

end Trace

namespace Program

open Trace

variable {m : Type → Type} [Monad m] [LawfulMonad m]

def conclude : Except Failure Resolution → StateT Trace m (Except ProgramError Resolution)
  | .ok resolution => do
    log (.resolved resolution)
    return .ok resolution
  | .error cause => return .error (.failure cause)

/-- What the program does to carry out a plan, on a host whose searches may be cancelled. -/
def resolveOver (isPresent : Path → m Bool) (look : String → m (Option (Except SearchMiss Path)))
    (sink : Sink) (p : Plan) : StateT Trace m (Except ProgramError Resolution) := do
  conclude (← (probeOver isPresent look sink).resolve p.config p.request)

lemma resolve_eq_resolveOver (host : Host m) (env : Environment) (sink : Sink) (p : Plan) :
    resolve host env sink p =
      resolveOver host.isPresent (fun name => some <$> Search.find host env .process name) sink
        p := by
  rw [resolve, resolveOver, probe_eq]
  apply bind_congr
  intro outcome
  cases outcome <;> rfl

variable (isPresent : Path → m Bool) (look : String → m (Option (Except SearchMiss Path)))

lemma related_silent :
    Probe.Related (diversion m) (probeOver isPresent look .log).silent
      (probeOver isPresent look .keep).silent where
  isPresent path := diversion_lift (isPresent path)
  findCommand name := (diversion m).bind (diversion_lift (look name)) (diversion_searched name)
  note := diversion_note
  log _ := (diversion m).pure ()

lemma related_resolveOver (p : Plan) :
    (diversion m).Rel (resolveOver isPresent look .log p) (resolveOver isPresent look .keep p) := by
  apply (diversion m).bind
  · rw [(probeOver isPresent look .log).resolve_eq_silent,
      (probeOver isPresent look .keep).resolve_eq_silent]
    apply (diversion m).bind (diversion_log rfl)
    intro _
    exact (related_silent isPresent look).resolve p.config p.request
  · intro outcome
    cases outcome with
    | ok resolution => exact (diversion m).bind (diversion_log rfl) fun _ => (diversion m).pure _
    | error cause => exact (diversion m).pure _

end Program

inductive SearchEvents (name : String) : List Event → Prop
  | found : SearchEvents name []
  | missed (cause : SearchMiss) : SearchEvents name [.searchMissed name cause]
  | cancelled : SearchEvents name [.searchCancelled name]

namespace Trace

variable {σ α β : Type} {P : List Event → Prop}

def Logs (P : List Event → Prop) (x : StateT Trace (StateM σ) α) : Prop :=
  ∀ t s, ∃ new, P new ∧ ((x.run t).run s).1.2.events = t.events ++ new

def Quiet (x : StateT Trace (StateM σ) α) : Prop := Logs (· = []) x

variable {x : StateT Trace (StateM σ) α} {f : α → StateT Trace (StateM σ) β}

lemma Quiet.pure (a : α) : Quiet (Pure.pure a : StateT Trace (StateM σ) α) := by
  intro t s
  exact ⟨[], rfl, (List.append_nil _).symm⟩

lemma Quiet.lift (y : StateM σ α) : Quiet (StateT.lift y : StateT Trace (StateM σ) α) := by
  intro t s
  exact ⟨[], rfl, (List.append_nil _).symm⟩

lemma Quiet.keep (line : String) : Quiet (Trace.keep line : StateT Trace (StateM σ) Unit) := by
  intro t s
  exact ⟨[], rfl, (List.append_nil _).symm⟩

lemma Quiet.bind (hx : Quiet x) (hf : ∀ a, Logs P (f a)) : Logs P (x >>= f) := by
  intro t s
  obtain ⟨_, rfl, hfirst⟩ := hx t s
  obtain ⟨new, hnew, hsecond⟩ := hf ((x.run t).run s).1.1 ((x.run t).run s).1.2 ((x.run t).run s).2
  refine ⟨new, hnew, ?_⟩
  rw [hfirst, List.append_nil] at hsecond
  exact hsecond

lemma Logs.bind_quiet (hx : Logs P x) (hf : ∀ a, Quiet (f a)) : Logs P (x >>= f) := by
  intro t s
  obtain ⟨new, hnew, hfirst⟩ := hx t s
  obtain ⟨_, rfl, hsecond⟩ := hf ((x.run t).run s).1.1 ((x.run t).run s).1.2 ((x.run t).run s).2
  refine ⟨new, hnew, ?_⟩
  rw [hfirst, List.append_nil] at hsecond
  exact hsecond

lemma logs_log_bind (e : Event) {f : Unit → StateT Trace (StateM σ) α} (hf : Logs P (f ())) :
    Logs (fun new => ∃ more, P more ∧ new = e :: more) (log e >>= f) := by
  intro t s
  obtain ⟨more, hmore, hevents⟩ := hf { t with events := t.events ++ [e] } s
  refine ⟨e :: more, ⟨more, hmore, rfl⟩, ?_⟩
  rw [List.append_cons]
  exact hevents

lemma Quiet.logs_search (hx : Quiet x) (name : String) : Logs (SearchEvents name) x := by
  intro t s
  obtain ⟨_, rfl, hevents⟩ := hx t s
  exact ⟨[], .found, hevents⟩

lemma logs_searched (name : String) (found : Option (Except SearchMiss Path)) :
    Logs (SearchEvents name) (searched name found : StateT Trace (StateM σ) (Option Path)) := by
  intro t s
  rcases found with _ | cause | path
  · exact ⟨_, .cancelled, rfl⟩
  · exact ⟨_, .missed cause, rfl⟩
  · exact ⟨_, .found, (List.append_nil _).symm⟩

variable (isPresent : Path → StateM σ Bool)
  (look : String → StateM σ (Option (Except SearchMiss Path))) (config : Config) (request : Request)

/-- Quiet computations go on quietly, which is a comparison with one side. -/
def hush (σ : Type) : Simulation (StateT Trace (StateM σ)) (StateT Trace (StateM σ)) where
  Rel x _ := Quiet x
  pure := Quiet.pure
  bind := Quiet.bind

def deaf : Probe (StateT Trace (StateM σ)) :=
  { (probeOver isPresent look .keep).silent with findCommand := fun _ => pure none }

lemma related_hush : Probe.Related (hush σ) (deaf isPresent look) (deaf isPresent look) where
  isPresent path := Quiet.lift (isPresent path)
  findCommand _ := Quiet.pure none
  note n := Quiet.keep n.text
  log _ := Quiet.pure ()

lemma quiet_lookup {source : Source} (hsource : source ≠ .environment) :
    Quiet ((probeOver isPresent look .keep).lookup config request source) := by
  cases source with
  | environment => exact absurd rfl hsource
  | bundled => exact (related_hush isPresent look).lookupBundled config
  | explicit => exact (related_hush isPresent look).lookupExplicit request.explicitPath

lemma quiet_announce (plan : List Source) :
    Quiet ((probeOver isPresent look .keep).announce plan) :=
  (related_hush isPresent look).announce plan

lemma quiet_note_pure (n : Note) (a : α) :
    Quiet (do (probeOver isPresent look .keep).note n; return a) :=
  Quiet.bind (.keep n.text) fun _ => Quiet.pure a

lemma logs_lookup_environment :
    Logs (SearchEvents config.platform.binaryName)
      ((probeOver isPresent look .keep).lookup config request .environment) := by
  apply Logs.bind_quiet
  · exact Quiet.bind (.lift _) fun found => logs_searched _ found
  · intro found
    cases found with
    | none => exact quiet_note_pure isPresent look _ _
    | some path => exact quiet_note_pure isPresent look _ _

lemma quiet_pursue {plan : List Source} (h : .environment ∉ plan) :
    Quiet ((probeOver isPresent look .keep).pursue config request plan) := by
  induction plan with
  | nil => exact Quiet.pure _
  | cons source rest ih =>
    rw [List.mem_cons, not_or] at h
    apply Quiet.bind (quiet_lookup isPresent look config request (Ne.symm h.1))
    intro found
    cases found with
    | some path => exact quiet_note_pure isPresent look _ _
    | none => exact Quiet.bind (quiet_announce isPresent look rest) fun _ => ih h.2

lemma logs_pursue {plan : List Source} (h : plan.Nodup) :
    Logs (SearchEvents config.platform.binaryName)
      ((probeOver isPresent look .keep).pursue config request plan) := by
  induction plan with
  | nil => exact (Quiet.pure _).logs_search _
  | cons source rest ih =>
    obtain ⟨hnot, hrest⟩ := List.nodup_cons.mp h
    by_cases hsource : source = .environment
    · subst hsource
      apply (logs_lookup_environment isPresent look config request).bind_quiet
      intro found
      cases found with
      | some path => exact quiet_note_pure isPresent look _ _
      | none =>
        apply Quiet.bind (quiet_announce isPresent look rest)
        intro _
        exact quiet_pursue isPresent look config request hnot
    · apply Quiet.bind (quiet_lookup isPresent look config request hsource)
      intro found
      cases found with
      | some path => exact (quiet_note_pure isPresent look _ _).logs_search _
      | none => exact Quiet.bind (quiet_announce isPresent look rest) fun _ => ih hrest

lemma logs_resolve :
    Logs (fun new => ∃ search, SearchEvents config.platform.binaryName search ∧
        new = .resolving config request :: search)
      ((probeOver isPresent look .keep).resolve config request) := by
  rw [Probe.resolve_eq_pursue]
  apply logs_log_bind
  cases hp : request.plan? with
  | none => exact (Quiet.pure _).logs_search _
  | some plan =>
    have hpursue := logs_pursue isPresent look config request (Request.plan?_nodup hp)
    cases request.trusted with
    | true => exact hpursue
    | false => exact Quiet.bind (.keep _) fun _ => hpursue

end Trace

namespace Program

open Trace

def keeping (σ : Type) : Simulation (StateT Transcript (StateM σ)) (StateT Trace (StateM σ)) where
  Rel x y := ∀ (t : Transcript) (u : Trace), u.lines = t.lines → ∀ s,
    ((y.run u).run s).1.1 = ((x.run t).run s).1.1 ∧ ((y.run u).run s).2 = ((x.run t).run s).2 ∧
      ((y.run u).run s).1.2.lines = ((x.run t).run s).1.2.lines
  pure a t u hlines s := ⟨rfl, rfl, hlines⟩
  bind {_ _ x y f g} hxy hfg t u hlines s := by
    obtain ⟨hresult, hhost, hkept⟩ := hxy t u hlines s
    cases hx : (x.run t).run s with
    | mk ran s' =>
      cases hy : (y.run u).run s with
      | mk ran' s'' =>
        rw [hx, hy] at hresult hhost hkept
        dsimp only at hresult hhost hkept
        rw [run_run_bind_of hx, run_run_bind_of hy, hresult, hhost]
        exact hfg ran.1 ran.2 ran'.2 hkept s'

/-- The ports that a host offers, on which a search that is cancelled is one that finds nothing. -/
def portsOver {m : Type → Type} [Monad m] (isPresent : Path → m Bool)
    (look : String → m (Option (Except SearchMiss Path))) : Ports m where
  isPresent := isPresent
  findCommand name := (fun found => found.bind Except.toOption) <$> look name

lemma related_keeping {σ : Type} (isPresent : Path → StateM σ Bool)
    (look : String → StateM σ (Option (Except SearchMiss Path))) :
    Probe.Related (keeping σ) (portsOver isPresent look).probe
      (probeOver isPresent look .keep) where
  isPresent path t u hlines s := ⟨rfl, rfl, hlines⟩
  findCommand name t u hlines s := by
    cases hlook : (look name).run s with
    | mk found s' =>
      have hasked : (((portsOver isPresent look).probe.findCommand name).run t).run s =
          ((found.bind Except.toOption, t.record (.findCommand name (found.bind Except.toOption))),
            s') := by
        rw [Ports.run_findCommand, run_map]
        simp only [portsOver, run_map, hlook]
      have hfound : (((probeOver isPresent look .keep).findCommand name).run u).run s =
          ((searched name found : StateT Trace (StateM σ) _).run u).run s' := by
        have hlift : ((StateT.lift (look name) : StateT Trace (StateM σ) _).run u).run s =
            ((found, u), s') := by
          rw [StateT.run_lift, run_bind_of hlook]
          rfl
        exact run_run_bind_of hlift
      rw [hasked, hfound]
      rcases found with _ | cause | path
      · exact ⟨rfl, rfl, hlines⟩
      · exact ⟨rfl, rfl, hlines⟩
      · exact ⟨rfl, rfl, hlines⟩
  note n t u hlines s := by
    refine ⟨rfl, rfl, ?_⟩
    change u.lines ++ [n.text] = (t.note n).lines
    rw [Transcript.lines_note, hlines]
  log event t u hlines s := ⟨rfl, rfl, hlines⟩

def conclusion : Except ProgramError Resolution → List Event
  | .ok resolution => [.resolved resolution]
  | .error _ => []

/-- What two runs of a plan have in common whose notes go to different places: `logged` into the
log, `kept` into lines. -/
structure SinksAgree {σ : Type} (p : Plan)
    (logged kept : (Except ProgramError Resolution × Trace) × σ) : Prop where
  outcome : logged.1.1 = kept.1.1
  host : logged.2 = kept.2
  level : ∀ e ∈ logged.1.2.events, e.target = "jarl_locate::resolve" → e.level = .info
  lines : (logged.1.2.events.filter (·.target = "jarl_locate::resolve")).map Event.message =
    kept.1.2.lines
  others : logged.1.2.events.filter (·.target ≠ "jarl_locate::resolve") = kept.1.2.events
  order : ∃ search, SearchEvents p.config.platform.binaryName search ∧
    kept.1.2.events = .resolving p.config p.request :: (search ++ conclusion kept.1.1)
  faithful : ∃ outcome t attempts, Faithful p.config p.request outcome t attempts ∧
    kept.1.1 = outcome.mapError .failure ∧ kept.1.2.lines = t.lines

variable {σ : Type}

lemma events_resolveOver (isPresent : Path → StateM σ Bool)
    (look : String → StateM σ (Option (Except SearchMiss Path))) (p : Plan) (s : σ) :
    let kept := (((resolveOver isPresent look .keep p).run {}).run s).1
    ∃ search, SearchEvents p.config.platform.binaryName search ∧
      kept.2.events = .resolving p.config p.request :: (search ++ conclusion kept.1) := by
  intro kept
  obtain ⟨_, ⟨search, hsearch, rfl⟩, hevents⟩ := logs_resolve isPresent look p.config p.request {} s
  refine ⟨search, hsearch, ?_⟩
  cases hrun : (((probeOver isPresent look .keep).resolve p.config p.request).run {}).run s with
  | mk ran s' =>
    obtain ⟨outcome, t⟩ := ran
    rw [hrun] at hevents
    have ht : t.events = .resolving p.config p.request :: search := hevents
    have hkept : kept = (((conclude outcome : StateT Trace (StateM σ) _).run t).run s').1 := by
      simp only [kept, resolveOver]
      rw [run_run_bind_of hrun]
    cases outcome with
    | ok resolution =>
      rw [hkept, ← List.cons_append, ← ht]
      rfl
    | error cause =>
      rw [hkept, ← List.cons_append, ← ht]
      exact (List.append_nil _).symm

lemma lines_resolveOver (isPresent : Path → StateM σ Bool)
    (look : String → StateM σ (Option (Except SearchMiss Path))) (p : Plan) (s : σ) :
    let kept := (((resolveOver isPresent look .keep p).run {}).run s).1
    ∃ outcome t attempts, Faithful p.config p.request outcome t attempts ∧
      kept.1 = outcome.mapError .failure ∧ kept.2.lines = t.lines := by
  intro kept
  obtain ⟨attempts, hfaithful⟩ :=
    (portsOver isPresent look).exists_faithful p.config p.request s
  obtain ⟨houtcome, -, hlines⟩ :=
    (related_keeping isPresent look).resolve p.config p.request {} {} rfl s
  refine ⟨_, _, attempts, hfaithful, ?_⟩
  cases hrun : (((probeOver isPresent look .keep).resolve p.config p.request).run {}).run s with
  | mk ran s' =>
    obtain ⟨outcome, t⟩ := ran
    have hkept : kept = (((conclude outcome : StateT Trace (StateM σ) _).run t).run s').1 := by
      simp only [kept, resolveOver]
      rw [run_run_bind_of hrun]
    rw [hrun] at houtcome hlines
    dsimp only at houtcome hlines
    rw [hkept, Ports.resolve, ← houtcome, ← hlines]
    cases outcome with
    | ok resolution => exact ⟨rfl, rfl⟩
    | error cause => exact ⟨rfl, rfl⟩

lemma sinksAgree_resolveOver (isPresent : Path → StateM σ Bool)
    (look : String → StateM σ (Option (Except SearchMiss Path))) (p : Plan) (s : σ) :
    SinksAgree p (((resolveOver isPresent look .log p).run {}).run s)
      (((resolveOver isPresent look .keep p).run {}).run s) := by
  have hkept := congrArg (StateT.run · s) (related_resolveOver isPresent look p {})
  cases hlogged : ((resolveOver isPresent look .log p).run {}).run s with
  | mk logged s' =>
    have hdiverted : ((resolveOver isPresent look .keep p).run {}).run s =
        ((logged.1, logged.2.diverted), s') := by
      rw [run_map, hlogged] at hkept
      exact hkept
    exact {
      outcome := by rw [hdiverted]
      host := by rw [hdiverted]
      level := by
        intro e _ he
        obtain ⟨text, rfl⟩ := Event.isNote_iff.mp (decide_eq_true he)
        rfl
      lines := by
        rw [hdiverted]
        rfl
      others := by
        rw [hdiverted]
        apply List.filter_congr
        intro e _
        exact decide_not
      order := events_resolveOver isPresent look p s
      faithful := lines_resolveOver isPresent look p s }

/-- On every host and in every environment, and also where a search is cancelled, a run whose notes
are logged and one whose notes are kept differ in nothing but where the notes stand. -/
theorem sinks_differ_in_notes_only (p : Plan) (s : σ) :
    (∀ (host : Host (StateM σ)) (env : Environment),
      SinksAgree p (((resolve host env .log p).run {}).run s)
        (((resolve host env .keep p).run {}).run s)) ∧
    ∀ (isPresent : Path → StateM σ Bool)
      (look : String → StateM σ (Option (Except SearchMiss Path))),
      SinksAgree p (((resolveOver isPresent look .log p).run {}).run s)
        (((resolveOver isPresent look .keep p).run {}).run s) := by
  refine ⟨?_, fun isPresent look => sinksAgree_resolveOver isPresent look p s⟩
  intro host env
  rw [resolve_eq_resolveOver, resolve_eq_resolveOver]
  exact sinksAgree_resolveOver _ _ p s

end Program

end Locator
