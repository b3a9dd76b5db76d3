import Locator.Proofs.Resolver.FirstHit
import Mathlib.Data.List.Basic

namespace Locator

inductive Heading where
  | untrusted
  | found (source : Source)
  | missedBundled
  | missedEnvironment
  | explicitUnset
  | explicitAbsent
  | fallBackToEnvironment
  | fallBackToBundled
  | selected (source : Source)
deriving DecidableEq, Repr

namespace Heading

def all : List Heading :=
  [.untrusted, .found .bundled, .found .environment, .found .explicit, .missedBundled,
    .missedEnvironment, .explicitUnset, .explicitAbsent, .fallBackToEnvironment,
    .fallBackToBundled, .selected .bundled, .selected .environment, .selected .explicit]

lemma mem_all (h : Heading) : h ∈ all := by
  cases h with
  | found source => cases source <;> decide
  | selected source => cases source <;> decide
  | _ => decide

def text : Heading → String
  | .untrusted => "Workspace is not trusted, using bundled executable: "
  | .found source => "Found " ++ source.label ++ ": "
  | .missedBundled => "Failed to find bundled executable: "
  | .missedEnvironment => "Failed to find environment executable"
  | .explicitUnset => "Failed to find executable from path, no `jarl.executablePath` provided"
  | .explicitAbsent =>
    "Failed to find executable from path, provided `jarl.executablePath` does not exist"
  | .fallBackToEnvironment =>
    "Bundled executable not found, falling back to environment executable"
  | .fallBackToBundled => "Environment executable not found, falling back to bundled executable"
  | .selected source => "Using " ++ source.label ++ ": "

-- No heading begins another, so a line has one heading whatever path follows.
lemma prefixFree : ∀ h ∈ all, ∀ k ∈ all, h.text.toList <+: k.text.toList → h = k := by
  decide +kernel

def line (caption : Heading × String) : String := caption.1.text ++ caption.2

lemma line_injective : Function.Injective line := by
  rintro ⟨h, s⟩ ⟨k, t⟩ heq
  have hlists : h.text.toList ++ s.toList = k.text.toList ++ t.toList := by
    simpa [line] using congrArg String.toList heq
  have hk : k.text.toList <+: h.text.toList ++ s.toList := ⟨t.toList, hlists.symm⟩
  have hhk : h = k := by
    rcases List.prefix_or_prefix_of_prefix (List.prefix_append _ _) hk with hp | hp
    · exact prefixFree h h.mem_all k k.mem_all hp
    · exact (prefixFree k k.mem_all h h.mem_all hp).symm
  subst hhk
  have hst := List.append_cancel_left hlists
  rw [String.toList_inj.mp hst]

end Heading

namespace Note

def caption : Note → Heading × String
  | .untrusted bundled => (.untrusted, bundled.display)
  | .foundBundled path => (.found .bundled, path.display)
  | .missedBundled path => (.missedBundled, path.display)
  | .foundEnvironment path => (.found .environment, path.display)
  | .missedEnvironment => (.missedEnvironment, "")
  | .foundExplicit path => (.found .explicit, path.display)
  | .explicitUnset => (.explicitUnset, "")
  | .explicitAbsent => (.explicitAbsent, "")
  | .fallBackToEnvironment => (.fallBackToEnvironment, "")
  | .fallBackToBundled => (.fallBackToBundled, "")
  | .using resolution => (.selected resolution.source, resolution.path.display)

lemma line_caption (n : Note) : Heading.line n.caption = n.text := by
  cases n <;> rfl

lemma captions_eq_of_texts_eq {ns ms : List Note} (h : ns.map text = ms.map text) :
    ns.map caption = ms.map caption := by
  apply List.map_injective_iff.mpr Heading.line_injective
  simpa [Function.comp_def, line_caption] using h

end Note

namespace Failure

inductive Kind where
  | untrustedBundledMissing
  | strategyBundledExhausted
  | strategyEnvironmentExhausted
  | strategyPathMissing
  | unknownStrategy
deriving DecidableEq, Repr

def kind : Failure → Kind
  | .untrustedBundledMissing _ => .untrustedBundledMissing
  | .strategyBundledExhausted _ => .strategyBundledExhausted
  | .strategyEnvironmentExhausted _ => .strategyEnvironmentExhausted
  | .strategyPathMissing _ => .strategyPathMissing
  | .unknownStrategy _ => .unknownStrategy

end Failure

/-- What a user gets to know of an outcome: the kind of failure, or the source and the path as it
is displayed. -/
abbrev Verdict := Except Failure.Kind (Source × String)

namespace Verdict

def ofOutcome : Except Failure Resolution → Verdict
  | .ok r => .ok (r.source, r.path.display)
  | .error f => .error f.kind

/-- The verdict as the lines have it. Without a selection at the end, the first line tells whether
the workspace was trusted and the last one which source was the last to be tried. -/
def ofCaptions (captions : List (Heading × String)) : Verdict :=
  match captions.head?.map Prod.fst, captions.getLast? with
  | _, some (.selected source, path) => .ok (source, path)
  | some .untrusted, _ => .error .untrustedBundledMissing
  | _, some (.missedEnvironment, _) => .error .strategyBundledExhausted
  | _, some (.missedBundled, _) => .error .strategyEnvironmentExhausted
  | none, _ => .error .unknownStrategy
  | _, _ => .error .strategyPathMissing

lemma ofCaptions_selected (captions : List (Heading × String)) (source : Source) (path : String) :
    ofCaptions (captions ++ [(.selected source, path)]) = .ok (source, path) := by
  simp [ofCaptions]

end Verdict

namespace Attempt

def story : List Attempt → List Note
  | [] => []
  | [a] => [a.note]
  | a :: b :: rest => a.note :: Note.fallBackTo b.source ++ story (b :: rest)

lemma narrate_eq (attempts : List Attempt) :
    narrate attempts =
      story attempts ++ ((attempts.getLast?.bind resolution?).map Note.using).toList := by
  induction attempts with
  | nil => rfl
  | cons a rest ih =>
    cases rest with
    | nil => rfl
    | cons b rest => simp [narrate, story, ih, List.getLast?_cons_cons]

def missed (config : Config) (request : Request) : Source → Attempt
  | .bundled => .bundled config.bundledPath false
  | .environment => .environment config.platform.binaryName none
  | .explicit => request.configured?.elim .unset fun path => .explicit path false

lemma eq_missed {config : Config} {request : Request} {a : Attempt} (ha : a.Fits config request)
    (hf : a.found? = none) : a = missed config request a.source := by
  cases hs : a.source with
  | bundled => exact eq_bundled ha hs hf
  | environment => exact eq_environment ha hs hf
  | explicit => exact eq_explicit ha hs hf

lemma eq_map_missed {config : Config} {request : Request} {plan : List Source}
    {attempts : List Attempt} (hs : attempts.map source = plan)
    (hfit : ∀ a ∈ attempts, a.Fits config request) (hf : ∀ a ∈ attempts, a.found? = none) :
    attempts = plan.map (missed config request) := by
  rw [← hs, List.map_map]
  refine (List.map_id attempts).symm.trans ?_
  apply List.map_congr_left
  intro a ha
  exact eq_missed (hfit a ha) (hf a ha)

end Attempt

lemma ofCaptions_of_missed {config : Config} {request : Request} {plan : List Source}
    (hp : request.plan? = some plan) :
    Verdict.ofCaptions ((request.opening config ++
        Attempt.narrate (plan.map (Attempt.missed config request))).map Note.caption) =
      .error (request.failure config).kind := by
  unfold Request.plan? at hp
  unfold Request.opening Request.failure
  cases ht : request.trusted with
  | false =>
    obtain rfl : [Source.bundled] = plan := by simpa [ht] using hp
    rfl
  | true =>
    cases hs : request.strategy with
    | unrecognized raw => simp [ht, hs] at hp
    | known strategy =>
      cases strategy with
      | bundled =>
        obtain rfl : [Source.bundled, .environment] = plan := by simpa [ht, hs] using hp
        rfl
      | environment =>
        obtain rfl : [Source.environment, .bundled] = plan := by simpa [ht, hs] using hp
        rfl
      | path =>
        obtain rfl : [Source.explicit] = plan := by simpa [ht, hs] using hp
        cases hc : request.configured? <;> simp [Attempt.missed, hc] <;> rfl

namespace Attempt

def line (a : Attempt) : String := a.note.text

def Agrees (a : Attempt) (line : String) : Prop :=
  match a.found? with
  | some path => line = "Found " ++ a.source.label ++ ": " ++ path.display
  | none => ∃ what, line = "Failed to find " ++ what

lemma agrees_line (a : Attempt) : a.Agrees a.line := by
  cases a with
  | bundled path present =>
    cases present with
    | true => rfl
    | false =>
      refine ⟨"bundled executable: " ++ path.display, ?_⟩
      rw [← String.append_assoc]
      rfl
  | environment name answer =>
    cases answer with
    | some path => rfl
    | none => exact ⟨"environment executable", rfl⟩
  | explicit path present =>
    cases present with
    | true => rfl
    | false =>
      exact ⟨"executable from path, provided `jarl.executablePath` does not exist", rfl⟩
  | unset => exact ⟨"executable from path, no `jarl.executablePath` provided", rfl⟩

def turn : Source → String
  | .environment => "Bundled executable not found, falling back to environment executable"
  | _ => "Environment executable not found, falling back to bundled executable"

def told : List Attempt → List String
  | [] => []
  | [a] => [a.line]
  | a :: b :: rest => a.line :: turn b.source :: told (b :: rest)

lemma texts_story {attempts : List Attempt} (h : ∀ a ∈ attempts.tail, a.source ≠ .explicit) :
    (story attempts).map Note.text = told attempts := by
  induction attempts with
  | nil => rfl
  | cons a rest ih =>
    cases rest with
    | nil => rfl
    | cons b rest =>
      have hturn : (Note.fallBackTo b.source).map Note.text = [turn b.source] := by
        cases hs : b.source with
        | bundled => rfl
        | environment => rfl
        | explicit => exact absurd hs (h b (by simp))
      have hrest := ih fun c hc => h c (List.mem_of_mem_tail hc)
      simp [story, told, hturn, hrest, line]

end Attempt

lemma Request.shape_of_mem_plans :
    ∀ plan ∈ plans, plan.length ≤ 2 ∧ Source.explicit ∉ plan.tail := by
  decide

def closing : Except Failure Resolution → List String
  | .ok r => ["Using " ++ r.source.label ++ ": " ++ r.path.display]
  | .error _ => []

/-- Lines that are true to a resolution: the lack of trust comes first, each attempt has its line,
between two attempts is the turn from one to the other, and a selection comes last. -/
structure Faithful (config : Config) (request : Request) (outcome : Except Failure Resolution)
    (t : Transcript) (attempts : List Attempt) : Prop where
  asked : t.exchanges = attempts.filterMap Attempt.exchange?
  fits : ∀ a ∈ attempts, a.Fits config request
  firstHit : FirstHit (request.plan?.getD []) attempts
  atMostTwo : attempts.length ≤ 2
  concluded : ∀ r, outcome = .ok r ↔ ∃ a, attempts.getLast? = some a ∧ a.resolution? = some r
  agree : ∀ a ∈ attempts, a.Agrees a.line
  lines : t.lines =
    (if request.trusted then [] else
      ["Workspace is not trusted, using bundled executable: " ++ config.bundledPath.display]) ++
    Attempt.told attempts ++ closing outcome

namespace Ports

variable {σ : Type} (ports : Ports (StateM σ)) (config : Config) (request : Request) (s : σ)

lemma run_resolve_of_plan {plan : List Source} (hp : request.plan? = some plan) :
    ((ports.resolve config request).run s).1 =
      (Attempt.conclude (request.failure config) ((ports.search config request plan).run s).1,
        Transcript.searched ⟨request.opening config, []⟩
          ((ports.search config request plan).run s).1) := by
  rw [resolve_of_plan ports config request hp]
  rfl

lemma run_resolve_of_no_plan (hp : request.plan? = none) :
    ((ports.resolve config request).run s).1 = (.error (request.failure config), {}) := by
  rw [resolve_of_no_plan ports config request hp]
  rfl

lemma faithful_of_plan {plan : List Source} (hp : request.plan? = some plan) :
    let run := ((ports.resolve config request).run s).1
    Faithful config request run.1 run.2 ((ports.search config request plan).run s).1 := by
  intro run
  have hrun : run = _ := run_resolve_of_plan ports config request s hp
  have hfits := ports.search_fits config request plan s
  have hfirst := ports.search_firstHit config request plan s
  obtain ⟨hlength, htail⟩ := Request.shape_of_mem_plans plan (Request.plan?_mem_plans hp)
  generalize ((ports.search config request plan).run s).1 = attempts at hrun hfits hfirst ⊢
  have hsources : ∀ a ∈ attempts.tail, a.source ≠ .explicit := by
    intro a ha hs
    apply htail
    have hmem : a.source ∈ (attempts.map Attempt.source).tail := by
      rw [← List.map_tail]
      exact List.mem_map_of_mem ha
    rw [← hs]
    exact hfirst.inOrder.sublist.tail.subset hmem
  rw [hrun]
  refine ⟨by simp [Transcript.searched], hfits, by simpa [hp] using hfirst, ?_,
    fun r => Attempt.conclude_eq_ok, fun a _ => a.agrees_line, ?_⟩
  · have := hfirst.inOrder.length_le
    simp only [List.length_map] at this
    omega
  · have hclosing : closing (Attempt.conclude (request.failure config) attempts) =
        ((attempts.getLast?.bind Attempt.resolution?).map Note.using).toList.map Note.text := by
      unfold Attempt.conclude
      cases attempts.getLast?.bind Attempt.resolution? <;> rfl
    have hopening : (request.opening config).map Note.text = if request.trusted then [] else
        ["Workspace is not trusted, using bundled executable: " ++ config.bundledPath.display] := by
      unfold Request.opening
      cases request.trusted <;> rfl
    simp only [Transcript.lines, Transcript.searched, List.map_append, Attempt.narrate_eq,
      Attempt.texts_story hsources, hclosing, hopening, List.append_assoc]

lemma faithful_of_no_plan (hp : request.plan? = none) :
    let run := ((ports.resolve config request).run s).1
    Faithful config request run.1 run.2 [] := by
  intro run
  have hrun : run = _ := run_resolve_of_no_plan ports config request s hp
  obtain ⟨ht, -⟩ := Request.plan?_eq_none hp
  rw [hrun]
  exact ⟨rfl, by simp, by simpa [hp] using FirstHit.nil, by simp, by simp, by simp,
    by simp [Transcript.lines, ht, Attempt.told, closing]⟩

lemma exists_faithful :
    let run := ((ports.resolve config request).run s).1
    ∃ attempts, Faithful config request run.1 run.2 attempts := by
  cases hp : request.plan? with
  | none => exact ⟨[], ports.faithful_of_no_plan config request s hp⟩
  | some plan => exact ⟨_, ports.faithful_of_plan config request s hp⟩

lemma ofCaptions_resolve :
    let run := ((ports.resolve config request).run s).1
    Verdict.ofCaptions (run.2.notes.map Note.caption) = Verdict.ofOutcome run.1 := by
  intro run
  cases hp : request.plan? with
  | none =>
    have hrun : run = _ := run_resolve_of_no_plan ports config request s hp
    obtain ⟨ht, raw, hs⟩ := Request.plan?_eq_none hp
    rw [hrun]
    simp [Request.failure, ht, hs]
    rfl
  | some plan =>
    have hrun : run = _ := run_resolve_of_plan ports config request s hp
    have hfits := ports.search_fits config request plan s
    have hfirst := ports.search_firstHit config request plan s
    generalize ((ports.search config request plan).run s).1 = attempts at hrun hfits hfirst
    rw [hrun]
    cases hr : Attempt.conclude (request.failure config) attempts with
    | ok r =>
      obtain ⟨a, hlast, hfound⟩ := Attempt.conclude_eq_ok.mp hr
      have hnotes : Attempt.narrate attempts = Attempt.story attempts ++ [.using r] := by
        simp [Attempt.narrate_eq, hlast, hfound]
      simp only [Transcript.searched, hnotes, List.map_append, List.map_cons, List.map_nil,
        ← List.append_assoc]
      exact Verdict.ofCaptions_selected _ _ _
    | error f =>
      obtain ⟨rfl, hmissed⟩ := hfirst.all_missed hr
      have hattempts := Attempt.eq_map_missed (hfirst.exhausted hmissed) hfits hmissed
      rw [hattempts]
      exact ofCaptions_of_missed hp

end Ports

/-- The lines of a resolution are true to what it did, and they decide its outcome: two resolutions
with the same lines fail in the same kind, or find the same source and display the same path. -/
theorem lines_faithful_and_decisive :
    (∀ {σ : Type} (ports : Ports (StateM σ)) (config : Config) (request : Request) (s : σ),
      let run := ((ports.resolve config request).run s).1
      ∃ attempts, Faithful config request run.1 run.2 attempts) ∧
    (∀ {σ τ : Type} (ports₁ : Ports (StateM σ)) (ports₂ : Ports (StateM τ))
      (config₁ config₂ : Config) (request₁ request₂ : Request) (s : σ) (t : τ),
      let run₁ := ((ports₁.resolve config₁ request₁).run s).1
      let run₂ := ((ports₂.resolve config₂ request₂).run t).1
      run₁.2.lines = run₂.2.lines → Verdict.ofOutcome run₁.1 = Verdict.ofOutcome run₂.1) := by
  refine ⟨?_, ?_⟩
  · intro σ ports config request s
    exact ports.exists_faithful config request s
  · intro σ τ ports₁ ports₂ config₁ config₂ request₁ request₂ s t run₁ run₂ hlines
    have h₁ := ports₁.ofCaptions_resolve config₁ request₁ s
    have h₂ := ports₂.ofCaptions_resolve config₂ request₂ t
    have hcaptions := Note.captions_eq_of_texts_eq hlines
    exact h₁.symm.trans ((congrArg Verdict.ofCaptions hcaptions).trans h₂)

-- The paths of the two runs differ in a byte that spells no character.
theorem lines_decisive_for_paths_displayed_alike :
    let steady : Ports (StateM Unit) := ⟨fun _ => pure true, fun _ => pure none⟩
    let flipping : Ports (StateM Bool) :=
      ⟨fun _ b => (b, !b), fun _ => pure (some (.ofString "/evil"))⟩
    let run₁ := ((steady.resolve ⟨⟨[0x2f, 0xff]⟩, .unix⟩ ⟨false, default, none⟩).run ()).1
    let run₂ := ((flipping.resolve ⟨⟨[0x2f, 0xfe]⟩, .unix⟩
      ⟨false, .unrecognized "?", some "/evil"⟩).run true).1
    run₁.2.lines = run₂.2.lines ∧ Verdict.ofOutcome run₁.1 = Verdict.ofOutcome run₂.1 := by
  intro steady flipping run₁ run₂
  have hdisplay : (bundledPath ⟨[0x2f, 0xff]⟩ .unix).display =
      (bundledPath ⟨[0x2f, 0xfe]⟩ .unix).display := by decide +kernel
  let told (path : String) : List String :=
    ["Workspace is not trusted, using bundled executable: " ++ path,
      "Found bundled executable: " ++ path, "Using " ++ Source.bundled.label ++ ": " ++ path]
  have hlines : run₁.2.lines = run₂.2.lines := congrArg told hdisplay
  exact ⟨hlines, lines_faithful_and_decisive.2 _ _ _ _ _ _ _ _ hlines⟩

end Locator
