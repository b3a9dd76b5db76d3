import Locator.Proofs.Resolver.FirstHit

namespace Locator

namespace Ports

variable {σ : Type} (ports : Ports (StateM σ)) (config : Config) (request : Request) (s : σ)

lemma run_attempt_bundled :
    (ports.attempt config request .bundled).run s =
      (.bundled config.bundledPath ((ports.isPresent config.bundledPath).run s).1,
        ((ports.isPresent config.bundledPath).run s).2) := rfl

variable {ports config request s} {rest : List Source}

lemma resolve_of_present (hp : request.plan? = some (.bundled :: rest))
    (h : ((ports.isPresent config.bundledPath).run s).1 = true) :
    ((ports.resolve config request).run s).1.1 = .ok ⟨config.bundledPath, .bundled⟩ := by
  rw [ports.resolve_of_plan config request hp, run_map,
    run_search_cons ports config request (ports.run_attempt_bundled config request s), h]
  rfl

lemma source_mem_of_search {plan : List Source} {r : Resolution}
    (h : Attempt.conclude (request.failure config)
      ((ports.search config request plan).run s).1 = .ok r) : r.source ∈ plan := by
  obtain ⟨a, hlast, ha⟩ := Attempt.conclude_eq_ok.mp h
  obtain ⟨path, -, rfl⟩ := Option.map_eq_some_iff.mp ha
  apply (ports.search_firstHit config request plan s).inOrder.subset
  exact List.mem_map_of_mem (List.mem_of_getLast? hlast)

lemma source_mem_plan {plan : List Source} (hp : request.plan? = some plan) {r : Resolution}
    (hr : ((ports.resolve config request).run s).1.1 = .ok r) : r.source ∈ plan := by
  rw [ports.resolve_of_plan config request hp, run_map] at hr
  exact source_mem_of_search hr

lemma source_of_absent (hp : request.plan? = some (.bundled :: rest))
    (h : ((ports.isPresent config.bundledPath).run s).1 = false) {r : Resolution}
    (hr : ((ports.resolve config request).run s).1.1 = .ok r) : r.source ∈ rest := by
  rw [ports.resolve_of_plan config request hp, run_map,
    run_search_cons ports config request (ports.run_attempt_bundled config request s), h] at hr
  apply source_mem_of_search
  rw [← Attempt.conclude_cons_of_missed (a := .bundled config.bundledPath false) rfl]
  exact hr

lemma resolves_bundled_iff (hp : request.plan? = some (.bundled :: rest)) {r : Resolution} :
    ((ports.resolve config request).run s).1.1 = .ok r ∧ r.source = .bundled ↔
      ((ports.isPresent config.bundledPath).run s).1 = true ∧
        r = ⟨config.bundledPath, .bundled⟩ := by
  constructor
  · rintro ⟨hr, hsource⟩
    cases h : ((ports.isPresent config.bundledPath).run s).1 with
    | true =>
      rw [resolve_of_present hp h] at hr
      cases hr
      exact ⟨rfl, rfl⟩
    | false =>
      have hmem := source_of_absent hp h hr
      rw [hsource] at hmem
      exact absurd hmem (List.nodup_cons.mp (Request.plan?_nodup hp)).1
  · rintro ⟨h, rfl⟩
    exact ⟨resolve_of_present hp h, rfl⟩

end Ports

/-- A report asks one question, whether the bundled executable of its config is present. It says so
exactly when an untrusted request, and a trusted one for the bundled executable, resolve to that
executable; what the request of the report itself asks for does not matter. -/
theorem Report.foretells_bundled {σ : Type} (ports : Ports (StateM σ)) (config : Config)
    (request : Request) (s : σ) :
    let run := ((collect ports.probe.isPresent config request).run {}).run s
    let report := run.1.1
    let outcome (asked : Request) := ((ports.resolve config asked).run s).1.1
    (collect ports.isPresent config request).run s = (report, run.2) ∧
    run.1.2 = ⟨[], [.isPresent config.bundledPath report.bundledExists]⟩ ∧
    report.bundledPath = Locator.bundledPath config.extensionRoot config.platform ∧
    (∀ asked, asked.trusted = false →
      (report.bundledExists = true ↔ ∃ r, outcome asked = .ok r) ∧
      ∀ r, outcome asked = .ok r → r = ⟨report.bundledPath, .bundled⟩) ∧
    (∀ asked, asked.trusted = true → asked.strategy = .known .bundled →
      (report.bundledExists = true ↔ ∃ r, outcome asked = .ok r ∧ r.source = .bundled) ∧
      ∀ r, outcome asked = .ok r → r.source = .bundled → r.path = report.bundledPath) ∧
    ∀ raw, request.trusted = true → request.strategy = .unrecognized raw →
      outcome request = .error (.unknownStrategy raw) := by
  intro run report outcome
  refine ⟨rfl, rfl, rfl, ?_, ?_, ?_⟩
  · intro asked ht
    have hp : asked.plan? = some [.bundled] := by simp [Request.plan?, ht]
    have honly : ∀ r, outcome asked = .ok r → r.source = .bundled := by
      intro r hr
      exact List.mem_singleton.mp (Ports.source_mem_plan hp hr)
    refine ⟨⟨?_, ?_⟩, ?_⟩
    · intro h
      exact ⟨_, Ports.resolve_of_present hp h⟩
    · rintro ⟨r, hr⟩
      exact (Ports.resolves_bundled_iff hp).mp ⟨hr, honly r hr⟩ |>.1
    · intro r hr
      exact (Ports.resolves_bundled_iff hp).mp ⟨hr, honly r hr⟩ |>.2
  · intro asked ht hs
    have hp : asked.plan? = some [.bundled, .environment] := by simp [Request.plan?, ht, hs]
    refine ⟨⟨?_, ?_⟩, ?_⟩
    · intro h
      exact ⟨_, Ports.resolve_of_present hp h, rfl⟩
    · rintro ⟨r, hr⟩
      exact ((Ports.resolves_bundled_iff hp).mp hr).1
    · intro r hr hsource
      obtain ⟨-, rfl⟩ := (Ports.resolves_bundled_iff hp).mp ⟨hr, hsource⟩
      rfl
  · intro raw ht hs
    have hnone : request.plan? = none := by simp [Request.plan?, ht, hs]
    have hfailure : request.failure config = .unknownStrategy raw := by
      simp [Request.failure, ht, hs]
    simp only [outcome, ports.resolve_of_no_plan config request hnone, hfailure]
    rfl

theorem Report.foretells_bundled_unrecognized :
    let flipping : Ports (StateM Bool) :=
      ⟨fun _ present => (present, !present), fun _ => pure (some (.ofString "/bin/jarl"))⟩
    let config : Config := ⟨⟨[0xff, 0x2f]⟩, .windows⟩
    let request : Request := ⟨true, .unrecognized "nightly", none⟩
    let report := ((collect flipping.isPresent config request).run true).1
    report.bundledExists = true ∧
      (∃ r, ((flipping.resolve config ⟨false, .unrecognized "?", some "/x"⟩).run true).1.1 =
        .ok r) ∧
      ((flipping.resolve config request).run true).1.1 = .error (.unknownStrategy "nightly") := by
  intro flipping config request report
  have h := foretells_bundled flipping config request true
  have hpresent : report.bundledExists = true := rfl
  obtain ⟨-, -, -, huntrusted, -, hfails⟩ := h
  exact ⟨hpresent, (huntrusted _ rfl).1.mp hpresent, hfails "nightly" rfl rfl⟩

end Locator
