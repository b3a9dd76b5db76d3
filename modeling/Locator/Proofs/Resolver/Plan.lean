import Locator.Proofs.Results
import Locator.Resolver

/-! The sources that a request calls for, in order, and resolution as one pass over them. -/

namespace Locator

/-- The sources to try, in order. None for a strategy that is not known. -/
def Request.plan? (request : Request) : Option (List Source) :=
  if request.trusted = false then some [.bundled]
  else match request.strategy with
    | .known .bundled => some [.bundled, .environment]
    | .known .environment => some [.environment, .bundled]
    | .known .path => some [.explicit]
    | .unrecognized _ => none

def Request.configured? (request : Request) : Option Path :=
  match request.explicitPath with
  | none => none
  | some raw => if raw = "" then none else some (.ofString raw)

def Request.failure (request : Request) (config : Config) : Failure :=
  if request.trusted = false then .untrustedBundledMissing config.bundledPath
  else match request.strategy with
    | .known .bundled => .strategyBundledExhausted config.bundledPath
    | .known .environment => .strategyEnvironmentExhausted config.bundledPath
    | .known .path => .strategyPathMissing request.configured?
    | .unrecognized raw => .unknownStrategy raw

def Request.opening (request : Request) (config : Config) : List Note :=
  if request.trusted = false then [.untrusted config.bundledPath] else []

lemma Request.configured?_eq (request : Request) :
    request.configured? = (request.explicitPath.filter (· ≠ "")).map .ofString := by
  unfold configured?
  cases request.explicitPath with
  | none => rfl
  | some raw => by_cases hr : raw = "" <;> simp [hr, Option.filter]

def Request.plans : List (List Source) :=
  [[.bundled], [.bundled, .environment], [.environment, .bundled], [.explicit]]

lemma Request.plan?_mem_plans {request : Request} {plan : List Source}
    (hp : request.plan? = some plan) : plan ∈ plans := by
  unfold plan? at hp
  split at hp
  · obtain rfl := Option.some.inj hp
    decide
  · split at hp
    · obtain rfl := Option.some.inj hp
      decide
    · obtain rfl := Option.some.inj hp
      decide
    · obtain rfl := Option.some.inj hp
      decide
    · simp at hp

lemma Request.nodup_of_mem_plans : ∀ plan ∈ plans, plan.Nodup := by decide

lemma Request.plan?_nodup {request : Request} {plan : List Source}
    (hp : request.plan? = some plan) : plan.Nodup :=
  nodup_of_mem_plans plan (plan?_mem_plans hp)

lemma Request.plan?_eq_none {request : Request} (hp : request.plan? = none) :
    request.trusted = true ∧ ∃ raw, request.strategy = .unrecognized raw := by
  unfold plan? at hp
  split at hp
  · simp at hp
  · next ht =>
    refine ⟨by simpa using ht, ?_⟩
    cases hs : request.strategy with
    | unrecognized raw => exact ⟨raw, rfl⟩
    | known strategy => cases strategy <;> simp [hs] at hp

lemma Request.failure_eq_unknownStrategy {request : Request} {config : Config} {raw : String} :
    request.failure config = .unknownStrategy raw ↔
      request.trusted = true ∧ request.strategy = .unrecognized raw := by
  unfold failure
  cases request.trusted with
  | false => simp
  | true =>
    cases request.strategy with
    | unrecognized other => simp
    | known strategy => cases strategy <;> simp

def Note.fallBackTo : Source → List Note
  | .bundled => [.fallBackToBundled]
  | .environment => [.fallBackToEnvironment]
  | .explicit => []

namespace Probe

variable {m : Type → Type} [Monad m]

def lookup (probe : Probe m) (config : Config) (request : Request) : Source → m (Option Path)
  | .bundled => probe.lookupBundled config
  | .environment => probe.lookupEnvironment config.platform
  | .explicit => probe.lookupExplicit request.explicitPath

def announce (probe : Probe m) : List Source → m Unit
  | [] => return
  | source :: _ => (Note.fallBackTo source).forM probe.note

def pursue (probe : Probe m) (config : Config) (request : Request) :
    List Source → m (Except Failure Resolution)
  | [] => return .error (request.failure config)
  | source :: rest => do
    match ← probe.lookup config request source with
    | some path => probe.select source path
    | none =>
      probe.announce rest
      probe.pursue config request rest

variable [LawfulMonad m] (probe : Probe m) (config : Config) (request : Request)

lemma pursue_last (source : Source) :
    probe.pursue config request [source] = (do
      match ← probe.lookup config request source with
      | some path => probe.select source path
      | none => return .error (request.failure config)) := by
  refine bind_congr fun found => ?_
  cases found with
  | some path => rfl
  | none => simp [announce, pursue]

lemma announce_bundled (rest : List Source) :
    probe.announce (.bundled :: rest) = probe.note .fallBackToBundled := by
  simp [announce, Note.fallBackTo]

lemma announce_environment (rest : List Source) :
    probe.announce (.environment :: rest) = probe.note .fallBackToEnvironment := by
  simp [announce, Note.fallBackTo]

lemma resolve_eq_pursue :
    probe.resolve config request = (do
      probe.log (.resolving config request)
      match request.plan? with
      | none => return .error (request.failure config)
      | some plan =>
        if request.trusted = false then probe.note (.untrusted config.bundledPath)
        probe.pursue config request plan) := by
  refine bind_congr fun _ => ?_
  cases ht : request.trusted with
  | false =>
    simp only [Request.plan?, ht, Bool.false_eq_true, if_false, if_true]
    rw [pursue_last, Request.failure, if_pos ht]
    rfl
  | true =>
    cases hs : request.strategy with
    | unrecognized raw => simp [Request.plan?, Request.failure, ht, hs]
    | known strategy =>
      simp only [Request.plan?, ht, hs, Bool.true_eq_false, if_true, if_false]
      cases strategy with
      | bundled =>
        refine bind_congr fun found => ?_
        cases found with
        | some path => rfl
        | none =>
          dsimp only
          rw [announce_environment, pursue_last, Request.failure, if_neg (by simp [ht]), hs]
          rfl
      | environment =>
        refine bind_congr fun found => ?_
        cases found with
        | some path => rfl
        | none =>
          dsimp only
          rw [announce_bundled, pursue_last, Request.failure, if_neg (by simp [ht]), hs]
          rfl
      | path =>
        dsimp only
        rw [pursue_last, Request.failure, if_neg (by simp [ht]), hs]
        dsimp only
        rw [Request.configured?_eq]
        rfl

end Probe

namespace Probe

variable {τ : Type} {probe : Probe (StateM τ)} {config : Config} {request : Request} {t : τ}
  {f : Failure}

lemma run_resolve_eq (probe : Probe (StateM τ)) (config : Config) (request : Request) (t : τ) :
    ∃ t', ((probe.resolve config request).run t).1 =
      match request.plan? with
      | none => .error (request.failure config)
      | some plan => ((probe.pursue config request plan).run t').1 := by
  rw [resolve_eq_pursue]
  cases request.plan? with
  | none => exact ⟨t, rfl⟩
  | some plan => cases request.trusted <;> exact ⟨_, rfl⟩

lemma failure_of_pursue {plan : List Source}
    (h : ((probe.pursue config request plan).run t).1 = .error f) :
    f = request.failure config := by
  induction plan generalizing t with
  | nil =>
    cases h
    rfl
  | cons source rest ih =>
    cases ha : (probe.lookup config request source).run t with
    | mk answer t' =>
      rw [Probe.pursue, run_bind_of ha] at h
      cases answer with
      | some path => cases h
      | none => exact ih h

lemma failure_of_resolve (h : ((probe.resolve config request).run t).1 = .error f) :
    f = request.failure config := by
  obtain ⟨t', hrun⟩ := run_resolve_eq probe config request t
  rw [hrun] at h
  cases hp : request.plan? with
  | none =>
    rw [hp] at h
    cases h
    rfl
  | some plan =>
    rw [hp] at h
    exact failure_of_pursue h

variable {r : Resolution} {path : Path}

lemma lookup_of_pursue {plan : List Source}
    (h : ((probe.pursue config request plan).run t).1 = .ok r) :
    ∃ t', ((probe.lookup config request r.source).run t').1 = some r.path := by
  induction plan generalizing t with
  | nil => cases h
  | cons source rest ih =>
    cases ha : (probe.lookup config request source).run t with
    | mk answer t' =>
      rw [Probe.pursue, run_bind_of ha] at h
      cases answer with
      | some path =>
        cases h
        exact ⟨t, by rw [ha]⟩
      | none => exact ih h

lemma lookup_of_resolve (h : ((probe.resolve config request).run t).1 = .ok r) :
    ∃ t', ((probe.lookup config request r.source).run t').1 = some r.path := by
  obtain ⟨t', hrun⟩ := run_resolve_eq probe config request t
  rw [hrun] at h
  cases hp : request.plan? with
  | none =>
    rw [hp] at h
    cases h
  | some plan =>
    rw [hp] at h
    exact lookup_of_pursue h

lemma lookupBundled_eq_some (h : ((probe.lookupBundled config).run t).1 = some path) :
    path = config.bundledPath ∧ ((probe.isPresent path).run t).1 = true := by
  cases ha : (probe.isPresent config.bundledPath).run t with
  | mk answer t' =>
    rw [Probe.lookupBundled, run_bind_of ha] at h
    cases answer with
    | false => cases h
    | true =>
      cases h
      exact ⟨rfl, by rw [ha]⟩

lemma lookupEnvironment_eq_some {platform : Platform}
    (h : ((probe.lookupEnvironment platform).run t).1 = some path) :
    ((probe.findCommand platform.binaryName).run t).1 = some path := by
  cases ha : (probe.findCommand platform.binaryName).run t with
  | mk answer t' =>
    rw [Probe.lookupEnvironment, run_bind_of ha] at h
    cases answer with
    | none => cases h
    | some found =>
      cases h
      rfl

lemma checkExplicit_eq_ok {raw? : Option String}
    (h : ((probe.checkExplicit raw?).run t).1 = .ok path) :
    ∃ raw, raw? = some raw ∧ path = .ofString raw ∧ ((probe.isPresent path).run t).1 = true := by
  cases raw? with
  | none => cases h
  | some raw =>
    rw [Probe.checkExplicit] at h
    by_cases hraw : raw = ""
    · rw [if_pos hraw] at h
      cases h
    · rw [if_neg hraw] at h
      cases ha : (probe.isPresent (.ofString raw)).run t with
      | mk answer t' =>
        rw [run_bind_of ha] at h
        cases answer with
        | false => cases h
        | true =>
          cases h
          exact ⟨raw, rfl, rfl, by rw [ha]⟩

lemma lookupExplicit_eq_some {raw? : Option String}
    (h : ((probe.lookupExplicit raw?).run t).1 = some path) :
    ∃ raw, raw? = some raw ∧ path = .ofString raw ∧ ((probe.isPresent path).run t).1 = true := by
  cases ha : (probe.checkExplicit raw?).run t with
  | mk answer t' =>
    rw [Probe.lookupExplicit, run_bind_of ha] at h
    rcases answer with (_ | _) | found
    · cases h
    · cases h
    · cases h
      exact checkExplicit_eq_ok (by rw [ha])

lemma resolve_unrecognized {raw : String} (ht : request.trusted = true)
    (hs : request.strategy = .unrecognized raw) :
    ((probe.resolve config request).run t).1 = .error (.unknownStrategy raw) := by
  simp only [resolve, ht, hs, if_true]
  rfl

end Probe

end Locator
