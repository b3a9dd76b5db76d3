import Locator.Proofs.CommandLine.Sources
import Mathlib.Data.Option.Basic

/-! The words after a command are a level, which looks at the variables once more. -/

namespace Locator.CommandLine

variable {env : Environment} {scope : Option Command} {words : List Bytes}

namespace Level

variable {level next last : Level}

lemma separated_settle (h : level.settle = .ok next) : next.separated = level.separated := by
  obtain ⟨options, _ | ⟨o, _ | raw⟩, separated⟩ := level
  · cases h
    rfl
  · cases h
  · obtain ⟨entered, -, h⟩ := bind_eq_ok.mp h
    cases h
    rfl

lemma separated_enter {o : Opt} {raw : Bytes} (h : level.enter o raw = .ok next) :
    next.separated = level.separated := by
  obtain ⟨settled, hsettled, h⟩ := bind_eq_ok.mp h
  obtain ⟨entered, -, h⟩ := bind_eq_ok.mp h
  cases h
  have hsame : settled.separated = level.separated := separated_settle hsettled
  exact hsame

lemma separated_await {o : Opt} (h : level.await o = .ok next) :
    next.separated = level.separated := by
  obtain ⟨settled, hsettled, h⟩ := bind_eq_ok.mp h
  cases h
  have hsame : settled.separated = level.separated := separated_settle hsettled
  exact hsame

lemma separated_flag {o : Opt} {long : Bool} (h : level.flag scope long o = .ok next) :
    next.separated = level.separated := by
  cases o with
  | help => exact absurd h stop_ne_ok
  | version => exact absurd h stop_ne_ok
  | _ => exact separated_enter (lift_eq_ok h)

lemma separated_takeLong {name : Bytes} {value : Option Bytes}
    (h : level.takeLong scope name value = .ok next) : next.separated = level.separated := by
  rw [takeLong] at h
  split at h
  · cases h
  · split at h
    · exact separated_enter (lift_eq_ok h)
    · exact separated_enter (lift_eq_ok h)
    · exact separated_flag h
    · exact separated_flag h
    · exact separated_flag h
    · cases h
    · cases h
    · cases h
    · exact separated_await (lift_eq_ok h)
    · exact separated_enter (lift_eq_ok h)

lemma separated_takeLetters {letters : Bytes} (h : level.takeLetters scope letters = .ok next) :
    next.separated = level.separated := by
  induction letters generalizing level with
  | nil =>
    cases h
    rfl
  | cons letter letters ih =>
    rw [takeLetters] at h
    split at h
    · cases h
    · obtain ⟨flagged, hflag, h⟩ := bind_eq_ok.mp h
      rw [ih h, separated_flag hflag]

lemma separated_take {word : Bytes} (hword : word ≠ [hyphen, hyphen])
    (h : level.take scope word = .ok next) : next.separated = level.separated := by
  rw [take] at h
  split at h
  · cases h
  · have hspells := Word.spells_ofBytes word
    generalize Word.ofBytes word = spelled at hspells h
    cases hspells with
    | separator => exact absurd rfl hword
    | bare => exact separated_takeLong h
    | attached => exact separated_takeLong h
    | letters => exact separated_takeLetters h
    | plain =>
      obtain ⟨options, _ | ⟨o, _ | raw⟩, separated⟩ := level
      · cases h
      · cases h
        rfl
      · cases h

lemma separated_read {more : Option (Command × List Bytes)} (hwords : [hyphen, hyphen] ∉ words)
    (h : level.read scope words = .ok (last, more)) : last.separated = level.separated := by
  induction words generalizing level with
  | nil =>
    cases h
    rfl
  | cons word rest ih =>
    rw [List.mem_cons, not_or] at hwords
    rw [read] at h
    split at h
    · cases h
      rfl
    · cases h
    · obtain ⟨next, htake, h⟩ := bind_eq_ok.mp h
      rw [ih hwords.2 h, separated_take (Ne.symm hwords.1) htake]

lemma awaits_of_settle (h : level.settle = .ok next) : level.awaits = false := by
  obtain ⟨options, _ | ⟨o, _ | raw⟩, separated⟩ := level
  · rfl
  · cases h
  · rfl

lemma read_append (h : level.read scope words = .ok (last, none)) (more : List Bytes) :
    level.read scope (words ++ more) = last.read scope more := by
  induction words generalizing level with
  | nil =>
    cases h
    rfl
  | cons word rest ih =>
    rw [read] at h
    rw [List.cons_append, read]
    split at h
    · cases h
    · cases h
    · obtain ⟨next, htake, h⟩ := bind_eq_ok.mp h
      rw [htake]
      exact ih h

lemma read_command (hseparated : level.separated = false) (hawaits : level.awaits = false)
    (command : Command) (rest : List Bytes) :
    level.read none (Utf8.encode command.name :: rest) = .ok (level, some (command, rest)) := by
  have hpage : Page.ofName? (Utf8.encode command.name) = some (.command command) := by
    cases command <;> decide +kernel
  rw [read, hseparated, hawaits]
  simp only [Option.isSome_none, Bool.or_self, Bool.false_eq_true, if_false, hpage]

end Level

lemma Options.verbose_of_inherited {given found : Options} (h : given.inherited env = .ok found) :
    found.verbose = false := by
  obtain ⟨root, -, h⟩ := bind_eq_ok.mp h
  obtain ⟨trusted, -, h⟩ := bind_eq_ok.mp h
  obtain ⟨strategy, -, h⟩ := bind_eq_ok.mp h
  obtain ⟨path, -, h⟩ := bind_eq_ok.mp h
  cases h
  rfl

lemma Slot.get_inherited_of_none {α : Type} (slot : Slot α) {given own inherited : Options}
    (hown : ({} : Options).inherited env = .ok own)
    (hinherited : given.inherited env = .ok inherited) (hnone : slot.get given = none) :
    slot.get inherited = slot.get own := by
  have hfirst := slot.get_inherited hown
  have hsecond := slot.get_inherited hinherited
  rw [slot.start, Option.none_or, Option.map_none, Option.none_or] at hfirst
  rw [hnone, Option.none_or, Option.map_none, Option.none_or, ← hfirst] at hsecond
  exact Option.map_injective (fun _ _ => Except.ok.inj) hsecond

lemma Slot.get_inherited_twice {α : Type} (slot : Slot α) {given own inherited : Options}
    (hown : ({} : Options).inherited env = .ok own)
    (hinherited : given.inherited env = .ok inherited) :
    (slot.get given).or ((slot.get own).or (slot.get inherited)) =
      (slot.get given).or (slot.get inherited) := by
  cases hgiven : slot.get given with
  | some a => rfl
  | none => rw [slot.get_inherited_of_none hown hinherited hgiven, Option.or_self]

lemma joined_of_inherited {given own inherited : Options} (command : Command)
    (hown : ({} : Options).inherited env = .ok own)
    (hinherited : given.inherited env = .ok inherited) :
    joined command ({}, own) (given, inherited) =
      (given.orElse inherited).invocation (some command) := by
  have hsame : given.orElse (own.orElse inherited) = given.orElse inherited := by
    apply Options.ext_of_slots
    · intro α slot
      rw [slot.orElse, slot.orElse, slot.orElse, slot.get_inherited_twice hown hinherited]
    · simp only [Options.orElse, Options.verbose_of_inherited hown, Bool.false_or]
  have hgiven : ({} : Options).orElse given = given := rfl
  simp only [joined, hgiven, hsame]

lemma read_append_command {invocation : Invocation} (hread : read env words = .ok invocation)
    (hnone : invocation.command = none) (hwords : [hyphen, hyphen] ∉ words) (command : Command) :
    read env (words ++ [Utf8.encode command.name]) =
      (fun _ => { invocation with command := some command }) <$>
        Level.lift (({} : Options).inherited env) := by
  cases hr : Level.read {} none words with
  | error stop =>
    rw [read_of_stop hr] at hread
    cases hread
  | ok result =>
    obtain ⟨level, more⟩ := result
    cases more with
    | some next =>
      obtain ⟨other, rest⟩ := next
      rw [read_of_levels hr] at hread
      obtain ⟨inner, -, hread⟩ := bind_eq_ok.mp hread
      obtain ⟨found, -, hread⟩ := bind_eq_ok.mp hread
      obtain ⟨outer, -, hread⟩ := map_eq_ok.mp hread
      cases hread
      cases hnone
    | none =>
      rw [read_of_level hr] at hread
      obtain ⟨⟨given, inherited⟩, hfinish, hread⟩ := map_eq_ok.mp hread
      cases hread
      obtain ⟨done, hdone, rfl, hinherited⟩ := finish_eq_ok hfinish
      have hlevels : Level.read {} none (words ++ [Utf8.encode command.name]) =
          .ok (level, some (command, [])) := by
        rw [Level.read_append hr]
        exact Level.read_command (Level.separated_read hwords hr) (Level.awaits_of_settle hdone) _ _
      have hinner : ({} : Level).finish env =
          (({} : Options), ·) <$> Level.lift (({} : Options).inherited env) := by
        rw [Level.finish_eq]
        rfl
      rw [read_of_levels hlevels, Level.read, hfinish]
      change (({} : Level).finish env >>= _) = _
      rw [hinner]
      cases hown : ({} : Options).inherited env with
      | error e => rfl
      | ok own =>
        change Except.ok (joined command ({}, own) (done.options, inherited)) = _
        rw [joined_of_inherited command hown hinherited]
        rfl

/-- Every variable that stands in for an option and is set holds a value that the option takes. -/
structure Readable (env : Environment) : Prop where
  extensionRoot : env.get? "JARL_EXTENSION_ROOT" ≠ some []
  trusted : ∀ raw, env.get? "JARL_WORKSPACE_TRUSTED" = some raw → ∃ b, readSwitch raw = .ok b
  strategy : ∀ raw, env.get? "JARL_EXECUTABLE_STRATEGY" = some raw → (Utf8.decode? raw).isSome
  executablePath : ∀ raw, env.get? "JARL_EXECUTABLE_PATH" = some raw → (Utf8.decode? raw).isSome

lemma Options.gap_none {α : Type} {opt : Opt} {read : Bytes → Except UsageError α} :
    (∃ found, gap env opt none read = .ok found) ↔
      ∀ raw, opt.standIn?.bind env.get? = some raw → ∃ a, read raw = .ok a := by
  cases hvariable : opt.standIn?.bind env.get? with
  | none => simp [gap, hvariable]
  | some raw =>
    simp only [gap, hvariable, Option.some.injEq, forall_eq', map_eq_ok]
    constructor
    · rintro ⟨-, a, ha, -⟩
      exact ⟨a, ha⟩
    · rintro ⟨a, ha⟩
      exact ⟨some a, a, ha, rfl⟩

lemma readPath_iff {raw : Bytes} : (∃ path, readPath raw = .ok path) ↔ raw ≠ [] := by
  rw [readPath]
  split <;> simp [*]

lemma readText_iff {raw : Bytes} :
    (∃ text, readText raw = .ok text) ↔ (Utf8.decode? raw).isSome := by
  rw [readText]
  cases Utf8.decode? raw <;> simp

lemma Options.inherited_iff {given : Options} :
    (∃ found, given.inherited env = .ok found) ↔
      (∃ root, gap env .extensionRoot given.extensionRoot readPath = .ok root) ∧
      (∃ trusted, gap env .trusted given.trusted readSwitch = .ok trusted) ∧
      (∃ strategy, gap env .strategy given.strategy readText = .ok strategy) ∧
      ∃ path, gap env .executablePath given.executablePath readText = .ok path := by
  constructor
  · rintro ⟨found, h⟩
    obtain ⟨hroot, htrusted, hstrategy, hpath, -⟩ := inherited_eq_ok h
    exact ⟨⟨_, hroot⟩, ⟨_, htrusted⟩, ⟨_, hstrategy⟩, _, hpath⟩
  · rintro ⟨⟨root, hroot⟩, ⟨trusted, htrusted⟩, ⟨strategy, hstrategy⟩, path, hpath⟩
    refine ⟨{ extensionRoot := root, trusted, strategy, executablePath := path }, ?_⟩
    rw [inherited, hroot, htrusted, hstrategy, hpath]
    rfl

lemma inherited_iff_readable :
    (∃ found, ({} : Options).inherited env = .ok found) ↔ Readable env := by
  rw [Options.inherited_iff]
  constructor
  · rintro ⟨hroot, htrusted, hstrategy, hpath⟩
    refine ⟨?_, ?_, ?_, ?_⟩
    · intro hempty
      exact readPath_iff.mp (Options.gap_none.mp hroot [] hempty) rfl
    · exact Options.gap_none.mp htrusted
    · intro raw hraw
      exact readText_iff.mp (Options.gap_none.mp hstrategy raw hraw)
    · intro raw hraw
      exact readText_iff.mp (Options.gap_none.mp hpath raw hraw)
  · rintro ⟨hroot, htrusted, hstrategy, hpath⟩
    refine ⟨Options.gap_none.mpr ?_, Options.gap_none.mpr htrusted, Options.gap_none.mpr ?_,
      Options.gap_none.mpr ?_⟩
    · intro raw hraw
      apply readPath_iff.mpr
      rintro rfl
      exact hroot hraw
    · intro raw hraw
      exact readText_iff.mpr (hstrategy raw hraw)
    · intro raw hraw
      exact readText_iff.mpr (hpath raw hraw)

end Locator.CommandLine
