import Locator.Environment
import Locator.Session
import Mathlib.Data.List.Basic

namespace Locator.Session

namespace Step

def asksForJournal : Step → Bool
  | .lines => true
  | .takeLines => true
  | _ => false

def changesSurroundings : Step → Bool
  | .addFile _ => true
  | .removeFile _ => true
  | .setCommand .. => true
  | _ => false

end Step

/-- Sessions with the same files and the same commands, in whatever order they are kept. -/
structure Alike (s t : Session) : Prop where
  config : s.config = t.config
  present : ∀ path, path ∈ s.present ↔ path ∈ t.present
  commands : ∀ name, s.commands.lookup name = t.commands.lookup name

def Agree (step : Step) (a b : Answer) : Prop :=
  a.recording = b.recording ∧ (step.asksForJournal = false → a.result = b.result)

inductive AgreeAll : List Step → List Answer → List Answer → Prop
  | nil : AgreeAll [] [] []
  | cons {step : Step} {a b : Answer} {steps : List Step} {as bs : List Answer} :
      Agree step a b → AgreeAll steps as bs → AgreeAll (step :: steps) (a :: as) (b :: bs)

lemma lookup_filter_self (l : List (String × Path)) (name : String) :
    (l.filter (·.1 ≠ name)).lookup name = none := by
  induction l with
  | nil => rfl
  | cons entry l ih =>
    obtain ⟨key, value⟩ := entry
    by_cases hk : key = name
    · rw [List.filter_cons_of_neg (by simp [hk]), ih]
    · have hb : (name == key) = false := by simp [Ne.symm hk]
      rw [List.filter_cons_of_pos (by simp [hk]), List.lookup_cons, hb, ih]

namespace Alike

variable {s t u : Session}

lemma refl (s : Session) : Alike s s := ⟨rfl, fun _ => Iff.rfl, fun _ => rfl⟩

lemma symm (h : Alike s t) : Alike t s :=
  ⟨h.config.symm, fun path => (h.present path).symm, fun name => (h.commands name).symm⟩

lemma trans (h : Alike s t) (k : Alike t u) : Alike s u :=
  ⟨h.config.trans k.config, fun path => (h.present path).trans (k.present path),
    fun name => (h.commands name).trans (k.commands name)⟩

lemma contains_eq (h : Alike s t) (path : Path) :
    s.present.contains path = t.present.contains path := by
  rw [Bool.eq_iff_iff, List.contains_iff_mem, List.contains_iff_mem]
  exact h.present path

lemma isPresent_eq (h : Alike s t) : s.isPresent = t.isPresent := by
  funext path
  simp only [Session.isPresent, h.contains_eq]

lemma probe_eq (h : Alike s t) : s.probe = t.probe := by
  have hfind : s.findCommand = t.findCommand := by
    funext name
    simp only [Session.findCommand, h.commands]
  simp only [probe, h.isPresent_eq, hfind]

lemma addFile (h : Alike s t) (path : Path) :
    Alike { s with present := path :: s.present } { t with present := path :: t.present } := by
  refine ⟨h.config, fun other => ?_, h.commands⟩
  simp only [List.mem_cons, h.present other]

lemma removeFile (h : Alike s t) (path : Path) :
    Alike { s with present := s.present.filter (· ≠ path) }
      { t with present := t.present.filter (· ≠ path) } := by
  refine ⟨h.config, fun other => ?_, h.commands⟩
  simp only [List.mem_filter, h.present other]

lemma setCommand (h : Alike s t) (name : String) (path : Option Path) :
    Alike { s with commands := (path.map (name, ·)).toList ++ s.commands.filter (·.1 ≠ name) }
      { t with commands := (path.map (name, ·)).toList ++ t.commands.filter (·.1 ≠ name) } := by
  refine ⟨h.config, h.present, fun other => ?_⟩
  have hothers : (s.commands.filter (·.1 ≠ name)).lookup other =
      (t.commands.filter (·.1 ≠ name)).lookup other := by
    by_cases hn : other = name
    · rw [hn, lookup_filter_self, lookup_filter_self]
    · rw [Environment.lookup_filter_ne _ hn, Environment.lookup_filter_ne _ hn, h.commands]
  cases path with
  | none => exact hothers
  | some path =>
    simp only [Option.map_some, Option.toList_some, List.singleton_append, List.lookup_cons,
      hothers]

lemma of_fields (hconfig : s.config = t.config) (hpresent : s.present = t.present)
    (hcommands : s.commands = t.commands) : Alike s t :=
  ⟨hconfig, fun _ => by rw [hpresent], fun _ => by rw [hcommands]⟩

lemma consult (h : Alike s t) (step : Step) (action : StateM Recording Result) :
    Alike (s.consult action).1 (t.consult action).1 ∧
      Agree step (s.consult action).2 (t.consult action).2 :=
  ⟨⟨h.config, h.present, h.commands⟩, rfl, fun _ => rfl⟩

lemma reply (h : Alike s t) (step : Step) (result : Result) :
    Alike (s.reply result).1 (t.reply result).1 ∧
      Agree step (s.reply result).2 (t.reply result).2 :=
  ⟨h, rfl, fun _ => rfl⟩

lemma step (h : Alike s t) (step : Step) :
    Alike (s.step step).1 (t.step step).1 ∧ Agree step (s.step step).2 (t.step step).2 := by
  cases step with
  | addFile path =>
    simp only [Session.step, h.contains_eq path]
    split
    · exact h.reply _ _
    · exact (h.addFile path).reply _ _
  | removeFile path =>
    simp only [Session.step, h.contains_eq path]
    split
    · exact (h.removeFile path).reply _ _
    · exact h.reply _ _
  | setCommand name path => exact (h.setCommand name path).reply _ _
  | resolve request =>
    simp only [Session.step, h.probe_eq, h.config]
    exact h.consult _ _
  | bundledPath =>
    simp only [Session.step, h.config]
    exact h.reply _ _
  | lookupBundled =>
    simp only [Session.step, h.probe_eq, h.config]
    exact h.consult _ _
  | lookupEnvironment =>
    simp only [Session.step, h.probe_eq, h.config]
    exact h.consult _ _
  | lookupExplicit path =>
    simp only [Session.step, h.probe_eq]
    exact h.consult _ _
  | checkExplicit path =>
    simp only [Session.step, h.probe_eq]
    exact h.consult _ _
  | report request =>
    simp only [Session.step, h.isPresent_eq, h.config]
    exact h.consult _ _
  | append line =>
    simp only [Session.step]
    exact h.consult _ _
  | cloneResolver =>
    have hinspect : s.inspectResolver = t.inspectResolver := by
      unfold inspectResolver
      rw [h.config]
    simp only [Session.step, hinspect]
    exact h.reply _ _
  | newJournal => exact ⟨⟨h.config, h.present, h.commands⟩, rfl, fun _ => rfl⟩
  -- here the journals show
  | lines => exact ⟨h, rfl, fun hquiet => by cases hquiet⟩
  | takeLines => exact ⟨⟨h.config, h.present, h.commands⟩, rfl, fun hquiet => by cases hquiet⟩

lemma run (h : Alike s t) (steps : List Step) :
    Alike (s.run steps).1 (t.run steps).1 ∧ AgreeAll steps (s.run steps).2 (t.run steps).2 := by
  induction steps generalizing s t with
  | nil => exact ⟨h, .nil⟩
  | cons first rest ih =>
    obtain ⟨hnext, hanswer⟩ := h.step first
    obtain ⟨hlast, hanswers⟩ := ih hnext
    exact ⟨hlast, .cons hanswer hanswers⟩

end Alike

variable {s : Session}

lemma config_step (s : Session) (step : Step) : (s.step step).1.config = s.config := by
  cases step with
  | addFile path =>
    simp only [Session.step]
    split <;> rfl
  | removeFile path =>
    simp only [Session.step]
    split <;> rfl
  | _ => rfl

lemma config_run (s : Session) (steps : List Step) : (s.run steps).1.config = s.config := by
  induction steps generalizing s with
  | nil => rfl
  | cons first rest ih => exact (ih _).trans (s.config_step first)

lemma alike_step_of_quiet {step : Step} (h : step.changesSurroundings = false) :
    Alike (s.step step).1 s := by
  cases step with
  | addFile path => cases h
  | removeFile path => cases h
  | setCommand name path => cases h
  | _ => exact .of_fields rfl rfl rfl

lemma alike_run_filter (s : Session) (steps : List Step) :
    Alike (s.run steps).1 (s.run (steps.filter Step.changesSurroundings)).1 := by
  induction steps generalizing s with
  | nil => exact .refl s
  | cons first rest ih =>
    cases hchange : first.changesSurroundings with
    | true =>
      rw [List.filter_cons_of_pos hchange]
      exact ih _
    | false =>
      rw [List.filter_cons_of_neg (by simp [hchange])]
      exact ((alike_step_of_quiet hchange).run rest).1.trans (ih s)

/-- Whatever happened in two sessions for the same extension: once they have the same files and the
same commands, all further steps give the same results, lines and questions, but for the content of
the journal. Steps that change neither files nor commands can be put in or left out anywhere. -/
theorem resolution_keeps_no_state :
    (∀ (start₁ start₂ : Session) (past₁ past₂ : List Step), start₁.config = start₂.config →
      let now₁ := (start₁.run past₁).1
      let now₂ := (start₂.run past₂).1
      (∀ path, path ∈ now₁.present ↔ path ∈ now₂.present) →
      (∀ name, now₁.commands.lookup name = now₂.commands.lookup name) →
      ∀ further, AgreeAll further (now₁.run further).2 (now₂.run further).2) ∧
    (∀ (start : Session) (past₁ past₂ : List Step),
      past₁.filter Step.changesSurroundings = past₂.filter Step.changesSurroundings →
      ∀ further, AgreeAll further ((start.run past₁).1.run further).2
        ((start.run past₂).1.run further).2) := by
  refine ⟨?_, ?_⟩
  · intro start₁ start₂ past₁ past₂ hconfig now₁ now₂ hpresent hcommands further
    have hnow : now₁.config = now₂.config := by
      rw [config_run, config_run, hconfig]
    exact (Alike.run ⟨hnow, hpresent, hcommands⟩ further).2
  · intro start past₁ past₂ hsame further
    have h₁ := alike_run_filter start past₁
    have h₂ := alike_run_filter start past₂
    rw [hsame] at h₁
    exact ((h₁.trans h₂.symm).run further).2

theorem resolution_keeps_no_state_reordered :
    let config : Config := ⟨.ofString "/x", .unix⟩
    let request : Request := ⟨true, .known .bundled, none⟩
    let found : Option Path := some (.ofString "/p/jarl")
    let start₁ : Session := ⟨config, [], [], []⟩
    let start₂ : Session :=
      ⟨config, [config.bundledPath, .ofString "/a"], [("jarl", .ofString "/old")], ["before"]⟩
    let past₁ : List Step :=
      [.addFile config.bundledPath, .resolve request, .addFile (.ofString "/a"),
        .setCommand "jarl" found, .takeLines]
    let past₂ : List Step :=
      [.cloneResolver, .setCommand "jarl" none, .report request, .setCommand "jarl" found]
    let further : List Step := [.removeFile config.bundledPath, .resolve request, .lines]
    (start₁.run past₁).1.present ≠ (start₂.run past₂).1.present ∧
      AgreeAll further ((start₁.run past₁).1.run further).2 ((start₂.run past₂).1.run further).2 ∧
      AgreeAll further ((start₂.run past₂).1.run further).2
        ((start₂.run (.newJournal :: .resolve request :: past₂)).1.run further).2 := by
  intro config request found start₁ start₂ past₁ past₂ further
  have hpresent₁ : (start₁.run past₁).1.present = [.ofString "/a", config.bundledPath] := by
    decide +kernel
  have hpresent₂ : (start₂.run past₂).1.present = [config.bundledPath, .ofString "/a"] := by
    decide +kernel
  have hcommands₁ : (start₁.run past₁).1.commands = [("jarl", .ofString "/p/jarl")] := by
    decide +kernel
  have hcommands₂ : (start₂.run past₂).1.commands = [("jarl", .ofString "/p/jarl")] := by
    decide +kernel
  refine ⟨?_, resolution_keeps_no_state.1 start₁ start₂ past₁ past₂ rfl ?_ ?_ further,
    resolution_keeps_no_state.2 start₂ past₂ (.newJournal :: .resolve request :: past₂) rfl further⟩
  · rw [hpresent₁, hpresent₂]
    decide
  · intro path
    rw [hpresent₁, hpresent₂, List.mem_pair, List.mem_pair, or_comm]
  · intro name
    rw [hcommands₁, hcommands₂]

end Locator.Session
