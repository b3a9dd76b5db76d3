import Locator.Proofs.Resolver.Attempts

namespace Locator

/-- The attempts of a search through `plan`: it takes the sources as they come, goes on only after
a miss, and gives up only when there are none left. -/
structure FirstHit (plan : List Source) (attempts : List Attempt) : Prop where
  inOrder : attempts.map Attempt.source <+: plan
  missed : ∀ a ∈ attempts.dropLast, a.found? = none
  exhausted : (∀ a ∈ attempts, a.found? = none) → attempts.map Attempt.source = plan

lemma FirstHit.nil : FirstHit [] [] := ⟨List.prefix_rfl, by simp, fun _ => rfl⟩

lemma FirstHit.hit {a : Attempt} {source : Source} (ha : a.source = source)
    (hf : a.found?.isSome = true) (rest : List Source) : FirstHit (source :: rest) [a] := by
  refine ⟨by simp [ha], by simp, ?_⟩
  intro h
  simp [h a (by simp)] at hf

lemma FirstHit.miss {a : Attempt} {source : Source} {rest : List Source} {attempts : List Attempt}
    (ha : a.source = source) (hf : a.found? = none) (h : FirstHit rest attempts) :
    FirstHit (source :: rest) (a :: attempts) := by
  refine ⟨by simpa [ha] using h.inOrder, ?_, ?_⟩
  · cases attempts with
    | nil => simp
    | cons b attempts =>
      intro c hc
      rcases List.mem_cons.mp (by simpa using hc) with rfl | hc
      · exact hf
      · exact h.missed c hc
  · intro hall
    simp [ha, h.exhausted fun b hb => hall b (List.mem_cons_of_mem a hb)]

namespace Ports

variable {σ : Type} (ports : Ports (StateM σ)) (config : Config) (request : Request)

lemma attempt_source (source : Source) (s : σ) :
    ((ports.attempt config request source).run s).1.source = source := by
  cases source with
  | bundled => rfl
  | environment => rfl
  | explicit =>
    unfold attempt
    cases request.configured? <;> rfl

lemma attempt_fits (source : Source) (s : σ) :
    ((ports.attempt config request source).run s).1.Fits config request := by
  cases source with
  | bundled => rfl
  | environment => rfl
  | explicit =>
    unfold attempt
    cases hc : request.configured? <;> exact hc

lemma run_search_cons {source : Source} {s s' : σ} {a : Attempt}
    (ha : (ports.attempt config request source).run s = (a, s')) (rest : List Source) :
    (ports.search config request (source :: rest)).run s =
      if a.found?.isSome then ([a], s')
      else (a :: ((ports.search config request rest).run s').1,
        ((ports.search config request rest).run s').2) := by
  simp only [search, StateT.run_bind, ha]
  cases hf : a.found?.isSome <;> simp [bind, hf] <;> rfl

lemma search_firstHit (plan : List Source) (s : σ) :
    FirstHit plan ((ports.search config request plan).run s).1 := by
  induction plan generalizing s with
  | nil => exact .nil
  | cons source rest ih =>
    have hs := ports.attempt_source config request source s
    cases ha : (ports.attempt config request source).run s with
    | mk a s' =>
      rw [ha] at hs
      rw [run_search_cons ports config request ha]
      cases hf : a.found? with
      | some path => exact .hit hs (by simp [hf]) rest
      | none => exact .miss hs hf (ih s')

lemma search_fits (plan : List Source) (s : σ) :
    ∀ a ∈ ((ports.search config request plan).run s).1, a.Fits config request := by
  induction plan generalizing s with
  | nil =>
    intro a ha
    exact absurd ha List.not_mem_nil
  | cons source rest ih =>
    have hs := ports.attempt_fits config request source s
    cases ha : (ports.attempt config request source).run s with
    | mk a s' =>
      rw [ha] at hs
      rw [run_search_cons ports config request ha]
      cases hf : a.found? with
      | some path => simpa using hs
      | none =>
        intro b hb
        rcases List.mem_cons.mp (by simpa using hb) with rfl | hb
        · exact hs
        · exact ih s' b hb

end Ports

/-- Which failure follows which exchanges. A failure that names a path names the one that was asked
for. -/
inductive Blames (request : Request) : List Exchange → Failure → Prop
  | untrusted {path : Path} (ht : request.trusted = false) :
      Blames request [.isPresent path false] (.untrustedBundledMissing path)
  | bundled {path : Path} {name : String} (ht : request.trusted = true)
      (hs : request.strategy = .known .bundled) :
      Blames request [.isPresent path false, .findCommand name none]
        (.strategyBundledExhausted path)
  | environment {path : Path} {name : String} (ht : request.trusted = true)
      (hs : request.strategy = .known .environment) :
      Blames request [.findCommand name none, .isPresent path false]
        (.strategyEnvironmentExhausted path)
  | absent {path : Path} (ht : request.trusted = true) (hs : request.strategy = .known .path) :
      Blames request [.isPresent path false] (.strategyPathMissing (some path))
  | unset (ht : request.trusted = true) (hs : request.strategy = .known .path) :
      Blames request [] (.strategyPathMissing none)

lemma Blames.exchanges_eq_nil {request : Request} {exchanges : List Exchange}
    (h : Blames request exchanges (.strategyPathMissing none)) : exchanges = [] := by
  cases h
  rfl

lemma Attempt.eq_bundled {config : Config} {request : Request} {a : Attempt}
    (ha : a.Fits config request) (hs : a.source = .bundled) (hf : a.found? = none) :
    a = .bundled config.bundledPath false := by
  cases a with
  | bundled path present => cases present <;> simp_all [Fits, found?]
  | environment => simp [source] at hs
  | explicit => simp [source] at hs
  | unset => simp [source] at hs

lemma Attempt.eq_environment {config : Config} {request : Request} {a : Attempt}
    (ha : a.Fits config request) (hs : a.source = .environment) (hf : a.found? = none) :
    a = .environment config.platform.binaryName none := by
  cases a with
  | bundled => simp [source] at hs
  | environment name answer => simp_all [Fits, found?]
  | explicit => simp [source] at hs
  | unset => simp [source] at hs

lemma Attempt.eq_explicit {config : Config} {request : Request} {a : Attempt}
    (ha : a.Fits config request) (hs : a.source = .explicit) (hf : a.found? = none) :
    a = (request.configured?.elim .unset fun path => .explicit path false) := by
  cases a with
  | bundled => simp [source] at hs
  | environment => simp [source] at hs
  | explicit path present => cases present <;> simp_all [Fits, found?]
  | unset => simp_all [Fits]

lemma blames_of_exhausted {config : Config} {request : Request} {plan : List Source}
    {attempts : List Attempt} (hp : request.plan? = some plan)
    (hs : attempts.map Attempt.source = plan) (hfit : ∀ a ∈ attempts, a.Fits config request)
    (hf : ∀ a ∈ attempts, a.found? = none) :
    Blames request (attempts.filterMap Attempt.exchange?) (request.failure config) := by
  unfold Request.plan? at hp
  unfold Request.failure
  cases ht : request.trusted with
  | false =>
    obtain rfl : [Source.bundled] = plan := by simpa [ht] using hp
    obtain ⟨a, rfl, ha⟩ := List.map_eq_singleton_iff.mp hs
    obtain rfl := Attempt.eq_bundled (hfit a (by simp)) ha (hf a (by simp))
    exact .untrusted ht
  | true =>
    cases hstrat : request.strategy with
    | unrecognized raw => simp [ht, hstrat] at hp
    | known strategy =>
      cases strategy with
      | bundled =>
        obtain rfl : [Source.bundled, .environment] = plan := by simpa [ht, hstrat] using hp
        obtain ⟨a, rest, rfl, ha, hrest⟩ := List.map_eq_cons_iff.mp hs
        obtain ⟨b, rfl, hb⟩ := List.map_eq_singleton_iff.mp hrest
        obtain rfl := Attempt.eq_bundled (hfit a (by simp)) ha (hf a (by simp))
        obtain rfl := Attempt.eq_environment (hfit b (by simp)) hb (hf b (by simp))
        exact .bundled ht hstrat
      | environment =>
        obtain rfl : [Source.environment, .bundled] = plan := by simpa [ht, hstrat] using hp
        obtain ⟨a, rest, rfl, ha, hrest⟩ := List.map_eq_cons_iff.mp hs
        obtain ⟨b, rfl, hb⟩ := List.map_eq_singleton_iff.mp hrest
        obtain rfl := Attempt.eq_environment (hfit a (by simp)) ha (hf a (by simp))
        obtain rfl := Attempt.eq_bundled (hfit b (by simp)) hb (hf b (by simp))
        exact .environment ht hstrat
      | path =>
        obtain rfl : [Source.explicit] = plan := by simpa [ht, hstrat] using hp
        obtain ⟨a, rfl, ha⟩ := List.map_eq_singleton_iff.mp hs
        obtain rfl := Attempt.eq_explicit (hfit a (by simp)) ha (hf a (by simp))
        cases request.configured? with
        | none => exact .unset ht hstrat
        | some path => exact .absent ht hstrat

lemma FirstHit.all_missed {plan : List Source} {attempts : List Attempt} {failure f : Failure}
    (h : FirstHit plan attempts) (hc : Attempt.conclude failure attempts = .error f) :
    f = failure ∧ ∀ a ∈ attempts, a.found? = none := by
  unfold Attempt.conclude at hc
  cases hl : attempts.getLast? with
  | none =>
    have hnil := List.getLast?_eq_none_iff.mp hl
    simp_all
  | some b =>
    cases hr : b.resolution? with
    | some r => simp [hl, hr] at hc
    | none =>
      refine ⟨by simpa [hl, hr] using hc.symm, ?_⟩
      intro a ha
      obtain ⟨front, rfl⟩ := List.getLast?_eq_some_iff.mp hl
      rcases List.mem_append.mp ha with ha | ha
      · exact h.missed a (by simpa using ha)
      · rw [List.mem_singleton.mp ha]
        simpa [Attempt.resolution?] using hr

namespace Ports

variable {σ : Type} (ports : Ports (StateM σ)) (config : Config) (request : Request)

def check (s : σ) : Except ExplicitMiss Path :=
  (((ports.probe.checkExplicit request.explicitPath).run {}).run s).1.1

lemma resolve_explicit (ht : request.trusted = true) (hs : request.strategy = .known .path)
    (s : σ) :
    ((ports.resolve config request).run s).1.1 =
      match ports.check request s with
      | .ok path => .ok ⟨path, .explicit⟩
      | .error (.doesNotExist path) => .error (.strategyPathMissing (some path))
      | .error .notProvided => .error (.strategyPathMissing none) := by
  have hp : request.plan? = some [.explicit] := by simp [Request.plan?, ht, hs]
  have hf : request.failure config = .strategyPathMissing request.configured? := by
    simp [Request.failure, ht, hs]
  rw [resolve_of_plan ports config request hp, hf, check, run_checkExplicit]
  cases hc : request.configured? with
  | none =>
    have ha : (ports.attempt config request .explicit).run s = (.unset, s) := by
      rw [attempt, hc]
      rfl
    rw [run_map, run_search_cons ports config request ha]
    rfl
  | some path =>
    have ha : (ports.attempt config request .explicit).run s =
        (.explicit path ((ports.isPresent path).run s).1, ((ports.isPresent path).run s).2) := by
      rw [attempt, hc]
      rfl
    rw [run_map, run_search_cons ports config request ha, run_map]
    cases ((ports.isPresent path).run s).1 <;> rfl

lemma resolve_explicit_absent (ht : request.trusted = true)
    (hs : request.strategy = .known .path) (s : σ) (path : Path) :
    ((ports.resolve config request).run s).1.1 = .error (.strategyPathMissing (some path)) ↔
      ports.check request s = .error (.doesNotExist path) := by
  rw [resolve_explicit ports config request ht hs]
  rcases ports.check request s with (_ | _) | _ <;> simp

lemma resolve_explicit_unset (ht : request.trusted = true)
    (hs : request.strategy = .known .path) (s : σ) :
    ((ports.resolve config request).run s).1.1 = .error (.strategyPathMissing none) ↔
      ports.check request s = .error .notProvided := by
  rw [resolve_explicit ports config request ht hs]
  rcases ports.check request s with (_ | _) | _ <;> simp

/-- For every request and all ports, also ports whose answers change, a resolution is a first-hit
search through the request's plan. -/
theorem resolve_is_first_hit_search (s : σ) :
    let run := (ports.resolve config request).run s
    let outcome := run.1.1
    let exchanges := run.1.2.exchanges
    match request.plan? with
    | none => request.trusted = true ∧ ∃ raw, request.strategy = .unrecognized raw ∧
        run = ((.error (.unknownStrategy raw), {}), s)
    | some plan =>
      let attempts := ((ports.search config request plan).run s).1
      run.2 = ((ports.search config request plan).run s).2 ∧
      exchanges = attempts.filterMap Attempt.exchange? ∧
      (∀ a ∈ attempts, a.Fits config request) ∧
      FirstHit plan attempts ∧ (attempts.map Attempt.source).Nodup ∧
      (∀ r, outcome = .ok r ↔ ∃ a, attempts.getLast? = some a ∧ a.resolution? = some r) ∧
      (∀ f, outcome = .error f → Blames request exchanges f) ∧
      (request.trusted = true → request.strategy = .known .path →
        (∀ path, outcome = .error (.strategyPathMissing (some path)) ↔
          ports.check request s = .error (.doesNotExist path)) ∧
        (outcome = .error (.strategyPathMissing none) ↔
          ports.check request s = .error .notProvided) ∧
        (ports.check request s = .error .notProvided → exchanges = [])) := by
  intro run outcome exchanges
  cases hp : request.plan? with
  | none =>
    obtain ⟨ht, raw, hs⟩ := Request.plan?_eq_none hp
    refine ⟨ht, raw, hs, ?_⟩
    have hf : request.failure config = .unknownStrategy raw := by simp [Request.failure, ht, hs]
    rw [← hf]
    exact congrArg (StateT.run · s) (resolve_of_no_plan ports config request hp)
  | some plan =>
    let attempts := ((ports.search config request plan).run s).1
    have hr : run = ((Attempt.conclude (request.failure config) attempts,
        Transcript.searched ⟨request.opening config, []⟩ attempts),
        ((ports.search config request plan).run s).2) :=
      congrArg (StateT.run · s) (resolve_of_plan ports config request hp)
    have ho : outcome = Attempt.conclude (request.failure config) attempts := by
      simp only [outcome, hr]
    have he : exchanges = attempts.filterMap Attempt.exchange? := by
      simp only [exchanges, hr, Transcript.searched, List.nil_append]
    have hfit := ports.search_fits config request plan s
    have hfirst := ports.search_firstHit config request plan s
    have hblame : ∀ f, outcome = .error f → Blames request exchanges f := by
      intro f hf
      obtain ⟨rfl, hmiss⟩ := hfirst.all_missed (ho ▸ hf)
      rw [he]
      exact blames_of_exhausted hp (hfirst.exhausted hmiss) hfit hmiss
    refine ⟨by rw [hr], he, hfit, hfirst,
      (Request.plan?_nodup hp).sublist hfirst.inOrder.sublist, ?_, hblame, ?_⟩
    · intro r
      rw [ho]
      exact Attempt.conclude_eq_ok
    · intro ht hs
      have hunset := resolve_explicit_unset ports config request ht hs s
      exact ⟨resolve_explicit_absent ports config request ht hs s, hunset,
        fun hc => (hblame _ (hunset.mpr hc)).exchanges_eq_nil⟩

end Ports

end Locator
