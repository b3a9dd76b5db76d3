import Locator.Proofs.CommandLine.Mentions
import Locator.Proofs.Results

/-! What holds of one slot, an option with the place of its value, holds of all. -/

namespace Locator.CommandLine

structure Slot (α : Type) where
  opt : Opt
  get : Options → Option α
  read : Bytes → Except UsageError α
  valued : opt ∈ [.extensionRoot, .trusted, .strategy, .executablePath, .settings]
  start : get {} = none
  enter_self : ∀ {given entered : Options} {raw : Bytes}, given.enter opt raw = .ok entered →
    get given = none ∧ ∃ a, read raw = .ok a ∧ get entered = some a
  enter_other : ∀ {given entered : Options} {other : Opt} {raw : Bytes}, other ≠ opt →
    given.enter other raw = .ok entered → get entered = get given
  orElse : ∀ first second : Options, get (first.orElse second) = (get first).or (get second)
  inherited : ∀ {env : Environment} {given found : Options}, given.inherited env = .ok found →
    Options.gap env opt (get given) read = .ok (get found)

lemma lift_eq_ok {α : Type} {x : Except UsageError α} {a : α} (h : Level.lift x = .ok a) :
    x = .ok a := by
  cases x with
  | error e => cases h
  | ok b =>
    cases h
    rfl

lemma Options.once_eq_ok {α : Type} {earlier found : Option α} {value : Except UsageError α}
    (h : once earlier value = .ok found) :
    earlier = none ∧ ∃ a, value = .ok a ∧ found = some a := by
  cases earlier with
  | some a => cases h
  | none =>
    obtain ⟨a, ha, rfl⟩ := map_eq_ok.mp h
    exact ⟨rfl, a, ha, rfl⟩

lemma Options.enter_eq_ok {given entered : Options} {o : Opt} {raw : Bytes}
    (h : given.enter o raw = .ok entered) :
    match o with
    | .extensionRoot => given.extensionRoot = none ∧ ∃ a, readPath raw = .ok a ∧
        entered = { given with extensionRoot := some a }
    | .trusted => given.trusted = none ∧ ∃ a, readSwitch raw = .ok a ∧
        entered = { given with trusted := some a }
    | .strategy => given.strategy = none ∧ ∃ a, readText raw = .ok a ∧
        entered = { given with strategy := some a }
    | .executablePath => given.executablePath = none ∧ ∃ a, readText raw = .ok a ∧
        entered = { given with executablePath := some a }
    | .settings => given.settings = none ∧ ∃ a, readPath raw = .ok a ∧
        entered = { given with settings := some a }
    | .verbose => entered = { given with verbose := true }
    | .help => entered = given
    | .version => entered = given := by
  cases o with
  | verbose =>
    unfold enter at h
    dsimp only at h
    split at h
    · cases h
    · cases h
      rfl
  | help =>
    cases h
    rfl
  | version =>
    cases h
    rfl
  | _ =>
    obtain ⟨found, hfound, h⟩ := bind_eq_ok.mp h
    obtain ⟨hnone, a, ha, rfl⟩ := once_eq_ok hfound
    cases h
    exact ⟨hnone, a, ha, rfl⟩

lemma Options.enter_frame {given entered : Options} {o : Opt} {raw : Bytes}
    (h : given.enter o raw = .ok entered) :
    (o ≠ .extensionRoot → entered.extensionRoot = given.extensionRoot) ∧
    (o ≠ .trusted → entered.trusted = given.trusted) ∧
    (o ≠ .strategy → entered.strategy = given.strategy) ∧
    (o ≠ .executablePath → entered.executablePath = given.executablePath) ∧
    (o ≠ .settings → entered.settings = given.settings) := by
  have hentered := enter_eq_ok h
  cases o with
  | verbose =>
    obtain rfl : entered = { given with verbose := true } := hentered
    simp
  | help =>
    obtain rfl : entered = given := hentered
    simp
  | version =>
    obtain rfl : entered = given := hentered
    simp
  | _ =>
    obtain ⟨-, a, -, rfl⟩ := hentered
    simp

lemma Options.inherited_eq_ok {env : Environment} {given found : Options}
    (h : given.inherited env = .ok found) :
    gap env .extensionRoot given.extensionRoot readPath = .ok found.extensionRoot ∧
    gap env .trusted given.trusted readSwitch = .ok found.trusted ∧
    gap env .strategy given.strategy readText = .ok found.strategy ∧
    gap env .executablePath given.executablePath readText = .ok found.executablePath ∧
    found.settings = none := by
  obtain ⟨root, hroot, h⟩ := bind_eq_ok.mp h
  obtain ⟨trusted, htrusted, h⟩ := bind_eq_ok.mp h
  obtain ⟨strategy, hstrategy, h⟩ := bind_eq_ok.mp h
  obtain ⟨path, hpath, h⟩ := bind_eq_ok.mp h
  cases h
  exact ⟨hroot, htrusted, hstrategy, hpath, rfl⟩

namespace Slot

def extensionRoot : Slot Path where
  opt := .extensionRoot
  get := Options.extensionRoot
  read := readPath
  valued := by decide
  start := rfl
  enter_self h := by
    obtain ⟨hnone, a, ha, rfl⟩ := Options.enter_eq_ok h
    exact ⟨hnone, a, ha, rfl⟩
  enter_other hne h := (Options.enter_frame h).1 hne
  orElse _ _ := Option.orElse_eq_or
  inherited h := (Options.inherited_eq_ok h).1

def trusted : Slot Bool where
  opt := .trusted
  get := Options.trusted
  read := readSwitch
  valued := by decide
  start := rfl
  enter_self h := by
    obtain ⟨hnone, a, ha, rfl⟩ := Options.enter_eq_ok h
    exact ⟨hnone, a, ha, rfl⟩
  enter_other hne h := (Options.enter_frame h).2.1 hne
  orElse _ _ := Option.orElse_eq_or
  inherited h := (Options.inherited_eq_ok h).2.1

def strategy : Slot String where
  opt := .strategy
  get := Options.strategy
  read := readText
  valued := by decide
  start := rfl
  enter_self h := by
    obtain ⟨hnone, a, ha, rfl⟩ := Options.enter_eq_ok h
    exact ⟨hnone, a, ha, rfl⟩
  enter_other hne h := (Options.enter_frame h).2.2.1 hne
  orElse _ _ := Option.orElse_eq_or
  inherited h := (Options.inherited_eq_ok h).2.2.1

def executablePath : Slot String where
  opt := .executablePath
  get := Options.executablePath
  read := readText
  valued := by decide
  start := rfl
  enter_self h := by
    obtain ⟨hnone, a, ha, rfl⟩ := Options.enter_eq_ok h
    exact ⟨hnone, a, ha, rfl⟩
  enter_other hne h := (Options.enter_frame h).2.2.2.1 hne
  orElse _ _ := Option.orElse_eq_or
  inherited h := (Options.inherited_eq_ok h).2.2.2.1

def settings : Slot Path where
  opt := .settings
  get := Options.settings
  read := readPath
  valued := by decide
  start := rfl
  enter_self h := by
    obtain ⟨hnone, a, ha, rfl⟩ := Options.enter_eq_ok h
    exact ⟨hnone, a, ha, rfl⟩
  enter_other hne h := (Options.enter_frame h).2.2.2.2 hne
  orElse _ _ := Option.orElse_eq_or
  inherited {_ given found} h := by
    have hnone : found.settings = none := (Options.inherited_eq_ok h).2.2.2.2
    rw [hnone]
    cases given.settings <;> rfl

end Slot

lemma Options.ext_of_slots {first second : Options}
    (hslot : ∀ {α : Type} (slot : Slot α), slot.get first = slot.get second)
    (hverbose : first.verbose = second.verbose) : first = second := by
  have hroot : first.extensionRoot = second.extensionRoot := hslot .extensionRoot
  have htrusted : first.trusted = second.trusted := hslot .trusted
  have hstrategy : first.strategy = second.strategy := hslot .strategy
  have hpath : first.executablePath = second.executablePath := hslot .executablePath
  have hsettings : first.settings = second.settings := hslot .settings
  cases first
  cases second
  simp_all

namespace Slot

variable {α : Type} (slot : Slot α) {level next settled : Level} {scope : Option Command}
  {raw : Bytes} (words rest : List Bytes)

def pending (level : Level) (words : List Bytes) : Option Bytes :=
  match level.pending with
  | some (o, raw?) => if o = slot.opt then raw?.or words.head? else none
  | none => none

def told (level : Level) (words : List Bytes) : Option (Except UsageError α) :=
  ((slot.pending level words).map slot.read).or ((slot.get level.options).map .ok)

lemma told_of_no_pending (h : level.pending = none) :
    slot.told level words = (slot.get level.options).map .ok := by
  simp [told, pending, h]

lemma told_settle (h : level.settle = .ok settled) :
    slot.told settled rest = slot.told level words ∧ settled.pending = none := by
  obtain ⟨options, pending?, separated⟩ := level
  match pending? with
  | none =>
    cases h
    exact ⟨rfl, rfl⟩
  | some (o, none) => cases h
  | some (o, some raw) =>
    obtain ⟨entered, hentered, h⟩ := bind_eq_ok.mp h
    cases h
    refine ⟨?_, rfl⟩
    by_cases ho : o = slot.opt
    · subst ho
      obtain ⟨-, a, hread, hget⟩ := slot.enter_self hentered
      simp [told, pending, hread, hget]
    · have hget := slot.enter_other ho hentered
      simp [told, pending, ho, hget]

lemma told_enter {o : Opt} (h : level.enter o raw = .ok next) :
    slot.told next rest =
      ((if o = slot.opt then some raw else none).map slot.read).or (slot.told level words) := by
  obtain ⟨settled, hsettled, h⟩ := bind_eq_ok.mp h
  obtain ⟨entered, hentered, h⟩ := bind_eq_ok.mp h
  cases h
  obtain ⟨hsame, hnone⟩ := slot.told_settle words rest hsettled
  have hnext : ({ settled with options := entered } : Level).pending = none := hnone
  rw [← hsame, told_of_no_pending slot rest hnext, told_of_no_pending slot rest hnone]
  by_cases ho : o = slot.opt
  · subst ho
    obtain ⟨-, a, hread, hget⟩ := slot.enter_self hentered
    simp [hread, hget]
  · simp [ho, slot.enter_other ho hentered]

lemma told_await {o : Opt} (h : level.await o = .ok next) :
    slot.told next rest =
      ((if o = slot.opt then rest.head? else none).map slot.read).or (slot.told level words) := by
  obtain ⟨settled, hsettled, h⟩ := bind_eq_ok.mp h
  cases h
  obtain ⟨hsame, hnone⟩ := slot.told_settle words rest hsettled
  rw [← hsame, told_of_no_pending slot rest hnone]
  simp [told, pending]

lemma told_flag {o : Opt} {long : Bool} (ho : o ≠ slot.opt)
    (h : level.flag scope long o = .ok next) : slot.told next rest = slot.told level words := by
  cases o with
  | help => exact absurd h Level.stop_ne_ok
  | version => exact absurd h Level.stop_ne_ok
  | _ =>
    have htold := slot.told_enter words rest (lift_eq_ok h)
    simpa [ho] using htold

lemma ne_opt_of_letter {o : Opt} (ho : o.letter? ≠ none) : o ≠ slot.opt := by
  have hnone : ∀ o ∈ [Opt.extensionRoot, .trusted, .strategy, .executablePath, .settings],
      o.letter? = none := by decide
  rintro rfl
  exact ho (hnone _ slot.valued)

lemma ne_opt_of_ofLetter? {letter : UInt8} {o : Opt} (h : Opt.ofLetter? scope letter = some o) :
    o ≠ slot.opt := by
  apply slot.ne_opt_of_letter
  intro hnone
  have hletter := Opt.letter_of_ofLetter? h
  rw [hnone] at hletter
  cases hletter

lemma takeLetters_cons {letter : UInt8} {letters : Bytes}
    (h : level.takeLetters scope (letter :: letters) = .ok next) :
    ∃ o flagged, o ≠ slot.opt ∧ level.flag scope false o = .ok flagged ∧
      flagged.takeLetters scope letters = .ok next := by
  unfold Level.takeLetters at h
  cases ho : Opt.ofLetter? scope letter with
  | none =>
    rw [ho] at h
    cases h
  | some o =>
    rw [ho] at h
    obtain ⟨flagged, hflag, h⟩ := bind_eq_ok.mp h
    exact ⟨o, flagged, slot.ne_opt_of_ofLetter? ho, hflag, h⟩

lemma told_takeLetters {letters : Bytes} (h : level.takeLetters scope letters = .ok next) :
    slot.told next rest = slot.told level rest := by
  induction letters generalizing level with
  | nil =>
    cases h
    rfl
  | cons letter letters ih =>
    obtain ⟨o, flagged, ho, hflag, hmore⟩ := slot.takeLetters_cons h
    rw [ih hmore, slot.told_flag rest rest ho hflag]

lemma told_takeLong_bare {name : Bytes} (hname : equals ∉ name)
    (h : level.takeLong scope name none = .ok next) :
    slot.told next rest =
      ((slot.opt.mention? (hyphen :: hyphen :: name) rest).map slot.read).or
        (slot.told level words) := by
  unfold Level.takeLong at h
  cases ho : Opt.ofName? scope name with
  | none =>
    rw [ho] at h
    cases h
  | some o =>
    rw [ho] at h
    have hiff : name = Utf8.encode slot.opt.name ↔ o = slot.opt := by
      rw [Opt.name_of_ofName? ho, Opt.encode_name_inj]
    have hnext (hne : o ≠ .trusted) :
        (if o = slot.opt then
          if slot.opt = .trusted then some (Utf8.encode "true") else rest.head?
        else none) = if o = slot.opt then rest.head? else none := by
      by_cases hs : o = slot.opt
      · rw [if_pos hs, if_pos hs, if_neg (hs ▸ hne)]
      · rw [if_neg hs, if_neg hs]
    rw [Opt.mention?_bare slot.opt rest hname]
    simp only [hiff]
    cases o with
    | trusted =>
      rw [slot.told_enter words rest (lift_eq_ok h)]
      by_cases hs : Opt.trusted = slot.opt
      · simp [← hs]
      · simp [hs]
    | verbose =>
      have hs : Opt.verbose ≠ slot.opt := slot.ne_opt_of_letter (by decide)
      rw [slot.told_flag words rest hs h]
      simp [hs]
    | help =>
      have hs : Opt.help ≠ slot.opt := slot.ne_opt_of_letter (by decide)
      rw [slot.told_flag words rest hs h]
      simp [hs]
    | version =>
      have hs : Opt.version ≠ slot.opt := slot.ne_opt_of_letter (by decide)
      rw [slot.told_flag words rest hs h]
      simp [hs]
    | _ =>
      rw [slot.told_await words rest (lift_eq_ok h), hnext (by decide)]

lemma told_takeLong_attached {name value : Bytes} (hname : equals ∉ name)
    (h : level.takeLong scope name (some value) = .ok next) :
    slot.told next rest =
      ((slot.opt.mention? (hyphen :: hyphen :: (name ++ equals :: value)) rest).map slot.read).or
        (slot.told level words) := by
  unfold Level.takeLong at h
  cases ho : Opt.ofName? scope name with
  | none =>
    rw [ho] at h
    cases h
  | some o =>
    rw [ho] at h
    have hiff : name = Utf8.encode slot.opt.name ↔ o = slot.opt := by
      rw [Opt.name_of_ofName? ho, Opt.encode_name_inj]
    rw [Opt.mention?_attached slot.opt rest hname]
    simp only [hiff]
    cases o with
    | verbose => cases h
    | help => cases h
    | version => cases h
    | _ => rw [slot.told_enter words rest (lift_eq_ok h)]

lemma told_take {word : Bytes} (h : level.take scope word = .ok next) :
    (word = [hyphen, hyphen] ∧ next = { level with separated := true }) ∨
    slot.told next rest =
      ((slot.opt.mention? word rest).map slot.read).or (slot.told level (word :: rest)) := by
  unfold Level.take at h
  split at h
  · cases h
  · have hspells := Word.spells_ofBytes word
    generalize Word.ofBytes word = spelled at hspells h
    cases hspells with
    | separator =>
      cases h
      exact .inl ⟨rfl, rfl⟩
    | bare hname => exact .inr (slot.told_takeLong_bare _ rest hname h)
    | attached value hname => exact .inr (slot.told_takeLong_attached _ rest hname h)
    | @letters letter letters hletter =>
      right
      have hshort : ¬[hyphen, hyphen] <+: hyphen :: letter :: letters := by
        rintro ⟨tail, htail⟩
        cases htail
        exact hletter rfl
      obtain ⟨o, flagged, ho, hflag, hmore⟩ := slot.takeLetters_cons h
      rw [slot.told_takeLetters rest hmore,
        slot.told_flag ((hyphen :: letter :: letters) :: rest) rest ho hflag,
        slot.opt.mention?_of_short rest hshort]
      rfl
    | plain hplain =>
      right
      rw [slot.opt.mention?_of_short rest hplain]
      obtain ⟨options, pending?, separated⟩ := level
      match pending? with
      | none => cases h
      | some (o, none) =>
        cases h
        simp [told, pending]
      | some (o, some raw) => cases h

lemma mention?_of_command {word : Bytes} {command : Command}
    (h : Page.ofName? word = some (.command command)) : slot.opt.mention? word rest = none := by
  have hword : word = Utf8.encode command.name := by
    unfold Page.ofName? at h
    split at h
    · cases h
    · obtain ⟨found, hfound, heq⟩ := Option.map_eq_some_iff.mp h
      cases heq
      have hname := List.find?_some hfound
      exact (eq_of_beq hname).symm
  apply slot.opt.mention?_of_short
  rw [hword]
  cases command <;> decide

lemma told_read {last done : Level} {more : Option (Command × List Bytes)} {words : List Bytes}
    (h : level.read scope words = .ok (last, more)) (hdone : last.settle = .ok done) :
    ∃ own, slot.opt.mentions words = own ++ slot.opt.mentions ((more.map Prod.snd).getD []) ∧
      slot.told done [] = (own.getLast?.map slot.read).or (slot.told level words) := by
  -- `told` carries what the words before said, and a value that is the next word
  induction words generalizing level with
  | nil =>
    cases h
    exact ⟨[], rfl, (slot.told_settle [] [] hdone).1⟩
  | cons word rest ih =>
    unfold Level.read at h
    split at h
    · next command hcommand =>
      cases h
      have hpage : Page.ofName? word = some (.command command) := by
        split at hcommand
        · cases hcommand
        · exact hcommand
      refine ⟨[], ?_, (slot.told_settle (word :: rest) [] hdone).1⟩
      rw [Opt.mentions, slot.mention?_of_command rest hpage]
      rfl
    · cases h
    · obtain ⟨next, htake, h⟩ := bind_eq_ok.mp h
      rcases slot.told_take rest htake with ⟨rfl, rfl⟩ | htold
      · -- nothing may follow the separator, so a value that is awaited here never comes
        obtain ⟨rfl, rfl, rfl⟩ := Level.read_separated rfl h
        refine ⟨[], ?_, (slot.told_settle [[hyphen, hyphen]] [] hdone).1⟩
        rw [Opt.mentions, Opt.mention?_separator]
        rfl
      · obtain ⟨own, hmentions, hown⟩ := ih h
        refine ⟨(slot.opt.mention? word rest).toList ++ own, ?_, ?_⟩
        · rw [Opt.mentions, hmentions, List.append_assoc]
        · rw [hown, htold, List.getLast?_append, Option.map_or, Option.or_assoc]
          cases slot.opt.mention? word rest <;> rfl

lemma get_read {last done : Level} {more : Option (Command × List Bytes)} {words : List Bytes}
    (h : Level.read {} scope words = .ok (last, more)) (hdone : last.settle = .ok done) :
    ∃ own, slot.opt.mentions words = own ++ slot.opt.mentions ((more.map Prod.snd).getD []) ∧
      (slot.get done.options).map .ok = own.getLast?.map slot.read := by
  obtain ⟨own, hmentions, htold⟩ := slot.told_read h hdone
  have hnone : done.pending = none := (slot.told_settle [] [] hdone).2
  have hstart : slot.told {} words = none := by
    rw [slot.told_of_no_pending words rfl, slot.start]
    rfl
  refine ⟨own, hmentions, ?_⟩
  rw [← slot.told_of_no_pending [] hnone, htold, hstart, Option.or_none]

lemma get_inherited {env : Environment} {given found : Options}
    (h : given.inherited env = .ok found) :
    ((slot.get given).or (slot.get found)).map .ok =
      ((slot.get given).map .ok).or ((slot.opt.standIn?.bind env.get?).map slot.read) := by
  have hgap := slot.inherited h
  unfold Options.gap at hgap
  cases hgiven : slot.get given with
  | some a => rfl
  | none =>
    rw [hgiven] at hgap
    cases hvariable : slot.opt.standIn?.bind env.get? with
    | none =>
      rw [hvariable] at hgap
      have hfound : none = slot.get found := Except.ok.inj hgap
      rw [← hfound]
      rfl
    | some raw =>
      rw [hvariable] at hgap
      obtain ⟨a, ha, hfound⟩ := map_eq_ok.mp hgap
      rw [← hfound]
      simp [ha]

end Slot

lemma read_scoped {level last : Level} {command : Command} {words : List Bytes}
    {more : Option (Command × List Bytes)}
    (h : level.read (some command) words = .ok (last, more)) : more = none := by
  induction words generalizing level with
  | nil =>
    cases h
    rfl
  | cons word rest ih =>
    unfold Level.read at h
    simp only [Option.isSome_some, Bool.true_or, if_true] at h
    obtain ⟨next, -, h⟩ := bind_eq_ok.mp h
    exact ih h

lemma finish_eq_ok {level : Level} {env : Environment} {given inherited : Options}
    (h : level.finish env = .ok (given, inherited)) :
    ∃ done, level.settle = .ok done ∧ given = done.options ∧
      done.options.inherited env = .ok inherited := by
  rw [Level.finish_eq] at h
  obtain ⟨done, hdone, h⟩ := bind_eq_ok.mp h
  obtain ⟨found, hfound, h⟩ := map_eq_ok.mp h
  cases h
  exact ⟨done, lift_eq_ok hdone, rfl, lift_eq_ok hfound⟩

lemma read_eq_ok {env : Environment} {words : List Bytes} {invocation : Invocation}
    (h : read env words = .ok invocation) :
    ∃ options command, invocation = Options.invocation options command ∧
      ∀ {α : Type} (slot : Slot α),
        (slot.get options).map .ok = (sourced env words slot.opt).map slot.read := by
  cases hr : Level.read {} none words with
  | error stop =>
    rw [read_of_stop hr] at h
    cases h
  | ok result =>
    obtain ⟨level, more⟩ := result
    cases more with
    | none =>
      rw [read_of_level hr] at h
      obtain ⟨⟨given, inherited⟩, hfinish, h⟩ := map_eq_ok.mp h
      cases h
      obtain ⟨done, hdone, rfl, hinherited⟩ := finish_eq_ok hfinish
      refine ⟨done.options.orElse inherited, none, rfl, ?_⟩
      intro α slot
      obtain ⟨own, hmentions, hget⟩ := slot.get_read hr hdone
      have hown : slot.opt.mentions words = own := by simpa [Opt.mentions] using hmentions
      rw [slot.orElse, slot.get_inherited hinherited, hget, sourced, hown, Option.map_or]
    | some next =>
      obtain ⟨command, rest⟩ := next
      rw [read_of_levels hr] at h
      obtain ⟨⟨inner, more⟩, hinner, h⟩ := bind_eq_ok.mp h
      obtain ⟨⟨innerGiven, innerInherited⟩, hfinish₁, h⟩ := bind_eq_ok.mp h
      obtain ⟨⟨outerGiven, outerInherited⟩, hfinish₂, h⟩ := map_eq_ok.mp h
      cases h
      obtain ⟨innerDone, hinnerDone, rfl, hinherited₁⟩ := finish_eq_ok hfinish₁
      obtain ⟨outerDone, houterDone, rfl, hinherited₂⟩ := finish_eq_ok hfinish₂
      refine ⟨_, some command, rfl, ?_⟩
      intro α slot
      obtain rfl := read_scoped hinner
      obtain ⟨outerOwn, houterMentions, houterGet⟩ := slot.get_read hr houterDone
      obtain ⟨innerOwn, hinnerMentions, hinnerGet⟩ := slot.get_read hinner hinnerDone
      have hown : slot.opt.mentions words = outerOwn ++ innerOwn := by
        simpa [Opt.mentions, hinnerMentions] using houterMentions
      have hinner := slot.get_inherited hinherited₁
      have houter := slot.get_inherited hinherited₂
      rw [sourced, hown, List.getLast?_append, Option.map_or, Option.map_or, ← hinnerGet,
        ← houterGet, slot.orElse, slot.orElse, slot.orElse]
      cases hi : slot.get innerDone.options with
      | some a => rfl
      | none =>
        cases ho : slot.get outerDone.options with
        | some a => rfl
        | none =>
          rw [hi] at hinner
          rw [ho] at houter
          simp only [Option.none_or, Option.map_none] at hinner houter ⊢
          rw [Option.map_or, hinner, houter, Option.or_self]

end Locator.CommandLine
