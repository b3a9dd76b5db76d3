import Locator.Proofs.Resolver.Plan
import Locator.Proofs.Resolver.Ports

/-! What a resolution does can be read off the attempts that its search makes. -/

namespace Locator

/-- What was tried, with the answer. Without a configured path there is nothing to ask. -/
inductive Attempt where
  | bundled (path : Path) (present : Bool)
  | environment (name : String) (answer : Option Path)
  | explicit (path : Path) (present : Bool)
  | unset
deriving DecidableEq, Repr

namespace Attempt

def source : Attempt → Source
  | .bundled .. => .bundled
  | .environment .. => .environment
  | .explicit .. => .explicit
  | .unset => .explicit

def exchange? : Attempt → Option Exchange
  | .bundled path present => some (.isPresent path present)
  | .environment name answer => some (.findCommand name answer)
  | .explicit path present => some (.isPresent path present)
  | .unset => none

def found? : Attempt → Option Path
  | .bundled path present => if present then some path else none
  | .environment _ answer => answer
  | .explicit path present => if present then some path else none
  | .unset => none

def note : Attempt → Note
  | .bundled path present => if present then .foundBundled path else .missedBundled path
  | .environment _ (some path) => .foundEnvironment path
  | .environment _ none => .missedEnvironment
  | .explicit path present => if present then .foundExplicit path else .explicitAbsent
  | .unset => .explicitUnset

def Fits (config : Config) (request : Request) : Attempt → Prop
  | .bundled path _ => path = config.bundledPath
  | .environment name _ => name = config.platform.binaryName
  | .explicit path _ => request.configured? = some path
  | .unset => request.configured? = none

def resolution? (a : Attempt) : Option Resolution := a.found?.map (⟨·, a.source⟩)

def narrate : List Attempt → List Note
  | [] => []
  | [a] => a.note :: (a.resolution?.map .using).toList
  | a :: b :: rest => a.note :: Note.fallBackTo b.source ++ narrate (b :: rest)

def conclude (failure : Failure) (attempts : List Attempt) : Except Failure Resolution :=
  match attempts.getLast?.bind resolution? with
  | some resolution => .ok resolution
  | none => .error failure

lemma conclude_cons_of_missed {a : Attempt} (ha : a.found? = none) (failure : Failure)
    (attempts : List Attempt) : conclude failure (a :: attempts) = conclude failure attempts := by
  cases attempts with
  | nil => simp [conclude, resolution?, ha]
  | cons b rest => simp [conclude, List.getLast?_cons_cons]

lemma conclude_eq_ok {failure : Failure} {attempts : List Attempt} {r : Resolution} :
    conclude failure attempts = .ok r ↔
      ∃ a, attempts.getLast? = some a ∧ a.resolution? = some r := by
  unfold conclude
  cases hl : attempts.getLast? with
  | none => simp
  | some a => cases hr : a.resolution? <;> simp [hr]

end Attempt

namespace Transcript

def tried (t : Transcript) (a : Attempt) : Transcript :=
  ⟨t.notes ++ [a.note], t.exchanges ++ a.exchange?.toList⟩

def searched (t : Transcript) (attempts : List Attempt) : Transcript :=
  ⟨t.notes ++ Attempt.narrate attempts, t.exchanges ++ attempts.filterMap Attempt.exchange?⟩

def announced (t : Transcript) : List Source → Transcript
  | [] => t
  | source :: _ => { t with notes := t.notes ++ Note.fallBackTo source }

lemma searched_of_found {a : Attempt} {resolution : Resolution}
    (ha : a.resolution? = some resolution) (t : Transcript) :
    t.searched [a] = (t.tried a).note (.using resolution) := by
  cases he : a.exchange? <;> simp [searched, tried, note, Attempt.narrate, ha, he]

lemma searched_of_missed {a : Attempt} (ha : a.found? = none) (t : Transcript)
    (attempts : List Attempt) :
    t.searched (a :: attempts) =
      ((t.tried a).announced (attempts.map Attempt.source)).searched attempts := by
  cases attempts with
  | nil =>
    cases he : a.exchange? <;>
      simp [searched, tried, announced, Attempt.narrate, Attempt.resolution?, ha, he]
  | cons b rest =>
    cases he : a.exchange? <;>
      simp [searched, tried, announced, Attempt.narrate, List.filterMap_cons, he]

end Transcript

namespace Ports

variable {m : Type → Type} [Monad m]

def attempt (ports : Ports m) (config : Config) (request : Request) : Source → m Attempt
  | .bundled => .bundled config.bundledPath <$> ports.isPresent config.bundledPath
  | .environment =>
    .environment config.platform.binaryName <$> ports.findCommand config.platform.binaryName
  | .explicit =>
    match request.configured? with
    | none => return .unset
    | some path => .explicit path <$> ports.isPresent path

def search (ports : Ports m) (config : Config) (request : Request) : List Source → m (List Attempt)
  | [] => return []
  | source :: rest => do
    let a ← ports.attempt config request source
    if a.found?.isSome then return [a]
    else return a :: (← ports.search config request rest)

variable [LawfulMonad m] (ports : Ports m) (config : Config) (request : Request) (t : Transcript)

lemma run_lookupBundled :
    (ports.probe.lookupBundled config).run t =
      (fun a => (a.found?, t.tried a)) <$> ports.attempt config request .bundled := by
  simp only [Probe.lookupBundled, attempt, StateT.run_bind, run_isPresent, bind_map_left,
    Functor.map_map]
  rw [← bind_pure_comp]
  congr 1
  funext answer
  cases answer <;> simp [Transcript.tried, Transcript.note, Transcript.record, Attempt.found?,
    Attempt.note, Attempt.exchange?]

lemma run_lookupEnvironment :
    (ports.probe.lookupEnvironment config.platform).run t =
      (fun a => (a.found?, t.tried a)) <$> ports.attempt config request .environment := by
  simp only [Probe.lookupEnvironment, attempt, StateT.run_bind, run_findCommand, bind_map_left,
    Functor.map_map]
  rw [← bind_pure_comp]
  congr 1
  funext answer
  cases answer <;> simp [Transcript.tried, Transcript.note, Transcript.record, Attempt.found?,
    Attempt.note, Attempt.exchange?]

lemma run_checkExplicit :
    (ports.probe.checkExplicit request.explicitPath).run t =
      match request.configured? with
      | none => pure (.error .notProvided, t)
      | some path => (fun answer => (if answer then .ok path else .error (.doesNotExist path),
          t.record (.isPresent path answer))) <$> ports.isPresent path := by
  unfold Request.configured?
  cases request.explicitPath with
  | none => rfl
  | some raw =>
    by_cases hr : raw = ""
    · simp [hr, Probe.checkExplicit]
    · simp only [Probe.checkExplicit, hr, if_false, StateT.run_bind, run_isPresent, bind_map_left]
      rw [← bind_pure_comp]
      congr 1
      funext answer
      cases answer <;> simp

lemma run_lookupExplicit :
    (ports.probe.lookupExplicit request.explicitPath).run t =
      (fun a => (a.found?, t.tried a)) <$> ports.attempt config request .explicit := by
  simp only [Probe.lookupExplicit, attempt, StateT.run_bind, run_checkExplicit]
  cases request.configured? with
  | none => simp [Transcript.tried, Transcript.note, Attempt.found?, Attempt.note,
      Attempt.exchange?]
  | some path =>
    simp only [bind_map_left, Functor.map_map]
    rw [← bind_pure_comp]
    congr 1
    funext answer
    cases answer <;> simp [Transcript.tried, Transcript.note, Transcript.record, Attempt.found?,
      Attempt.note, Attempt.exchange?]

lemma run_lookup (source : Source) :
    (ports.probe.lookup config request source).run t =
      (fun a => (a.found?, t.tried a)) <$> ports.attempt config request source := by
  cases source with
  | bundled => exact ports.run_lookupBundled config request t
  | environment => exact ports.run_lookupEnvironment config request t
  | explicit => exact ports.run_lookupExplicit config request t

lemma run_announce (plan : List Source) :
    (ports.probe.announce plan).run t = pure ((), t.announced plan) := by
  cases plan with
  | nil => rfl
  | cons source rest =>
    cases source <;> simp [Probe.announce, Note.fallBackTo, Transcript.announced, Transcript.note]

lemma run_select (source : Source) (path : Path) :
    (ports.probe.select source path).run t =
      pure (.ok ⟨path, source⟩, t.note (.using ⟨path, source⟩)) := by
  simp [Probe.select]

lemma attempt_bind_congr {α : Type} {f g : Attempt → m α} {source : Source}
    (h : ∀ a, a.source = source → f a = g a) :
    ports.attempt config request source >>= f = ports.attempt config request source >>= g := by
  cases source with
  | bundled =>
    simp only [attempt, bind_map_left]
    exact bind_congr fun present => h (.bundled config.bundledPath present) rfl
  | environment =>
    simp only [attempt, bind_map_left]
    exact bind_congr fun answer => h (.environment config.platform.binaryName answer) rfl
  | explicit =>
    unfold attempt
    cases request.configured? with
    | none => simpa using h .unset rfl
    | some path =>
      simp only [bind_map_left]
      exact bind_congr fun present => h (.explicit path present) rfl

lemma search_bind_congr {α : Type} {f g : List Attempt → m α} {source : Source}
    {rest : List Source}
    (h : ∀ a attempts, a.source = source → f (a :: attempts) = g (a :: attempts)) :
    ports.search config request (source :: rest) >>= f =
      ports.search config request (source :: rest) >>= g := by
  simp only [search, bind_assoc]
  apply attempt_bind_congr
  intro a ha
  cases hf : a.found?.isSome with
  | true => simpa using h a [] ha
  | false => simp [h a _ ha]

lemma run_pursue (plan : List Source) :
    (ports.probe.pursue config request plan).run t =
      (fun attempts =>
        (Attempt.conclude (request.failure config) attempts, t.searched attempts)) <$>
        ports.search config request plan := by
  induction plan generalizing t with
  | nil => simp [Probe.pursue, search, Attempt.conclude, Transcript.searched, Attempt.narrate]
  | cons source rest ih =>
    simp only [Probe.pursue, search, StateT.run_bind, run_lookup, bind_map_left, map_bind]
    apply attempt_bind_congr
    intro a ha
    cases hf : a.found? with
    | some path =>
      have hr : a.resolution? = some ⟨path, source⟩ := by simp [Attempt.resolution?, hf, ha]
      simp [run_select, Attempt.conclude, hr, Transcript.searched_of_found hr]
    | none =>
      simp only [StateT.run_bind, run_announce, pure_bind, ih, Option.isSome_none,
        Bool.false_eq_true, if_false, map_bind, map_pure, Attempt.conclude_cons_of_missed hf,
        Transcript.searched_of_missed hf]
      cases rest with
      | nil => simp [search]
      | cons next rest =>
        rw [← bind_pure_comp]
        apply search_bind_congr
        intro b attempts hb
        simp [Transcript.announced, hb]

lemma resolve_of_plan {plan : List Source} (h : request.plan? = some plan) :
    ports.resolve config request =
      (fun attempts => (Attempt.conclude (request.failure config) attempts,
        Transcript.searched ⟨request.opening config, []⟩ attempts)) <$>
        ports.search config request plan := by
  cases ht : request.trusted <;>
    simp [resolve, Probe.resolve_eq_pursue, h, ht, run_pursue, Request.opening, Transcript.note]

lemma resolve_of_no_plan (h : request.plan? = none) :
    ports.resolve config request = pure (.error (request.failure config), {}) := by
  simp [resolve, Probe.resolve_eq_pursue, h]

end Ports

end Locator
