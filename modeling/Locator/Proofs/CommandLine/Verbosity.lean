import Locator.Proofs.CommandLine.Words

/-! A verbose flag in front of a command line changes nothing but the verbosity of what is read. -/

namespace Locator.CommandLine

def verboseLetter : UInt8 := 0x76

def IsVerboseFlag (word : Bytes) : Prop :=
  word = Opt.verbose.word ∨
    word.head? = some hyphen ∧ word.tail.head? ≠ some hyphen ∧ verboseLetter ∈ word.tail

instance (word : Bytes) : Decidable (IsVerboseFlag word) :=
  inferInstanceAs (Decidable (_ ∨ _))

def HasVerboseFlag (words : List Bytes) : Prop :=
  ∃ word ∈ words.takeWhile (· ≠ [hyphen, hyphen]), IsVerboseFlag word

instance (words : List Bytes) : Decidable (HasVerboseFlag words) :=
  inferInstanceAs (Decidable (∃ word ∈ _, _))

lemma not_isVerboseFlag_head {word : Bytes} {rest : List Bytes}
    (h : ¬HasVerboseFlag (word :: rest)) : ¬IsVerboseFlag word := by
  by_cases hw : word = [hyphen, hyphen]
  · subst hw
    decide
  · intro hflag
    exact h ⟨word, by simp [hw], hflag⟩

lemma not_hasVerboseFlag_tail {word : Bytes} {rest : List Bytes}
    (h : ¬HasVerboseFlag (word :: rest)) (hw : word ≠ [hyphen, hyphen]) :
    ¬HasVerboseFlag rest := by
  rintro ⟨flag, hmem, hflag⟩
  refine h ⟨flag, ?_, hflag⟩
  rw [List.takeWhile_cons_of_pos (by simpa using hw)]
  exact List.mem_cons_of_mem word hmem

def Options.loud (given : Options) : Options := { given with verbose := true }

lemma Options.enter_loud (given : Options) {opt : Opt} (h : opt ≠ .verbose) (raw : Bytes) :
    given.loud.enter opt raw = loud <$> given.enter opt raw := by
  cases opt with
  | extensionRoot => cases hv : once given.extensionRoot (readPath raw) <;> simp [enter, loud, hv]
  | trusted => cases hv : once given.trusted (readSwitch raw) <;> simp [enter, loud, hv]
  | strategy => cases hv : once given.strategy (readText raw) <;> simp [enter, loud, hv]
  | executablePath => cases hv : once given.executablePath (readText raw) <;> simp [enter, loud, hv]
  | settings => cases hv : once given.settings (readPath raw) <;> simp [enter, loud, hv]
  | verbose => exact absurd rfl h
  | help => rfl
  | version => rfl

namespace Level

def louder (level : Level) : Level := { level with options := level.options.loud }

/-- No verbose flag is pending; it takes no value that could be. -/
def Calm (level : Level) : Prop := ∀ opt raw?, level.pending = some (opt, raw?) → opt ≠ .verbose

def Tracks {ε : Type} (quiet loud : Except ε Level) : Prop :=
  loud = louder <$> quiet ∧ ∀ level, quiet = .ok level → level.Calm

variable {ε : Type}

lemma Tracks.ok {level : Level} (h : level.Calm) :
    Tracks (.ok level : Except ε Level) (.ok level.louder) := by
  refine ⟨rfl, ?_⟩
  rintro _ ⟨⟩
  exact h

lemma Tracks.error (e : ε) : Tracks (.error e) (.error e) := by
  refine ⟨rfl, ?_⟩
  rintro _ ⟨⟩

lemma Tracks.bind {x y : Except ε Level} {f g : Level → Except ε Level} (h : Tracks x y)
    (hfg : ∀ level, level.Calm → Tracks (f level) (g level.louder)) :
    Tracks (x >>= f) (y >>= g) := by
  obtain ⟨rfl, hcalm⟩ := h
  cases x with
  | error e => exact .error e
  | ok level => exact hfg level (hcalm level rfl)

lemma Tracks.lift {x y : Except UsageError Level} (h : Tracks x y) :
    Tracks (lift x) (lift y) := by
  obtain ⟨rfl, hcalm⟩ := h
  cases x with
  | error e => exact .error (Stop.usage e)
  | ok level => exact .ok (hcalm level rfl)

lemma tracks_enter {opt : Opt} (h : opt ≠ .verbose) (given : Options) (raw : Bytes)
    (make : Options → Level) (hmake : ∀ o, make o.loud = (make o).louder)
    (hcalm : ∀ o, (make o).Calm) :
    Tracks (do return make (← given.enter opt raw))
      (do return make (← given.loud.enter opt raw)) := by
  rw [given.enter_loud h raw]
  cases given.enter opt raw with
  | error e => exact .error e
  | ok entered =>
    have hok : Tracks (.ok (make entered)) (.ok (make entered.loud) : Except UsageError Level) := by
      rw [hmake]
      exact .ok (hcalm entered)
    exact hok

variable {level : Level} {scope : Option Command} {opt : Opt}

lemma Calm.of_pending_none (h : level.pending = none) : level.Calm := by
  intro opt raw? hp
  rw [h] at hp
  cases hp

lemma tracks_settle (h : level.Calm) : Tracks level.settle level.louder.settle := by
  obtain ⟨options, pending, separated⟩ := level
  match pending with
  | none => exact .ok h
  | some (opt, none) => exact .error UsageError.noValue
  | some (opt, some raw) =>
    exact tracks_enter (h opt (some raw) rfl) options raw (fun o => ⟨o, none, separated⟩)
      (fun _ => rfl) (fun _ => .of_pending_none rfl)

lemma Tracks.enter (h : level.Calm) (hopt : opt ≠ .verbose) (raw : Bytes) :
    Tracks (level.enter opt raw) (level.louder.enter opt raw) := by
  apply (tracks_settle h).bind
  intro settled hsettled
  exact tracks_enter hopt settled.options raw (fun o => { settled with options := o })
    (fun _ => rfl) (fun _ => hsettled)

lemma Tracks.await (h : level.Calm) (hopt : opt ≠ .verbose) :
    Tracks (level.await opt) (level.louder.await opt) := by
  apply (tracks_settle h).bind
  intro settled _
  apply Tracks.ok
  rintro _ _ ⟨⟩
  exact hopt

lemma Tracks.stop (h : level.Calm) (reason : Stop) :
    Tracks (level.stop reason) (level.louder.stop reason) := by
  rw [stop_eq, stop_eq]
  apply (tracks_settle h).lift.bind
  intro _ _
  exact .error reason

lemma Tracks.flag (h : level.Calm) (hopt : opt ≠ .verbose) (long : Bool) :
    Tracks (level.flag scope long opt) (level.louder.flag scope long opt) := by
  cases opt with
  | help => exact .stop h _
  | version => exact .stop h _
  | verbose => exact absurd rfl hopt
  | _ => exact (Tracks.enter h hopt []).lift

lemma Tracks.takeLong (h : level.Calm) {name : Bytes} {value : Option Bytes}
    (hv : ¬(name = Utf8.encode Opt.verbose.name ∧ value = none)) :
    Tracks (level.takeLong scope name value) (level.louder.takeLong scope name value) := by
  unfold Level.takeLong
  cases ho : Opt.ofName? scope name with
  | none => exact .error _
  | some opt =>
    have hname := Opt.name_of_ofName? ho
    cases opt with
    | trusted =>
      cases value with
      | none => exact (Tracks.enter h (by decide) _).lift
      | some raw => exact (Tracks.enter h (by decide) raw).lift
    | verbose =>
      cases value with
      | none => exact absurd ⟨hname, rfl⟩ hv
      | some raw => exact .error _
    | help =>
      cases value with
      | none => exact .flag h (by decide) true
      | some raw => exact .error _
    | version =>
      cases value with
      | none => exact .flag h (by decide) true
      | some raw => exact .error _
    | _ =>
      cases value with
      | none => exact (Tracks.await h (by decide)).lift
      | some raw => exact (Tracks.enter h (by decide) raw).lift

lemma Tracks.takeLetters (h : level.Calm) {letters : Bytes} (hv : verboseLetter ∉ letters) :
    Tracks (level.takeLetters scope letters) (level.louder.takeLetters scope letters) := by
  induction letters generalizing level with
  | nil => exact .ok h
  | cons letter rest ih =>
    unfold Level.takeLetters
    cases ho : Opt.ofLetter? scope letter with
    | none => exact .error _
    | some opt =>
      have hopt : opt ≠ .verbose := by
        rintro rfl
        have hletter : letter = verboseLetter := (Option.some.inj (Opt.letter_of_ofLetter? ho)).symm
        exact hv (by simp [hletter])
      apply (Tracks.flag h hopt false).bind
      intro flagged hflagged
      exact ih hflagged fun hmem => hv (List.mem_cons_of_mem letter hmem)

lemma Tracks.take (h : level.Calm) {word : Bytes} (hv : ¬IsVerboseFlag word) :
    Tracks (level.take scope word) (level.louder.take scope word) := by
  by_cases hs : level.separated = true
  · have hlouder : level.louder.separated = true := hs
    simp only [Level.take, hs, hlouder, if_true]
    exact .error _
  · have hlouder : ¬level.louder.separated = true := hs
    simp only [Level.take, if_neg hs, if_neg hlouder]
    have hspells := Word.spells_ofBytes word
    generalize Word.ofBytes word = spelled at hspells
    cases hspells with
    | separator => exact .ok h
    | bare hname =>
      apply Tracks.takeLong h
      rintro ⟨rfl, -⟩
      exact hv (.inl rfl)
    | attached value hname => exact .takeLong h (by simp)
    | letters letters hletter =>
      have hhead : (_ :: letters).head? ≠ some hyphen := fun h => hletter (Option.some.inj h)
      exact .takeLetters h fun hmem => hv (.inr ⟨rfl, hhead, hmem⟩)
    | plain hplain =>
      obtain ⟨options, pending, separated⟩ := level
      rcases pending with _ | ⟨opt, _ | raw⟩
      · exact .error _
      · apply Tracks.ok
        rintro _ _ ⟨⟩
        exact h opt none rfl
      · exact .error _

def louderRead (result : Level × Option (Command × List Bytes)) :
    Level × Option (Command × List Bytes) :=
  (result.1.louder, result.2)

def TracksRead (level : Level) (scope : Option Command) (words : List Bytes) : Prop :=
  level.louder.read scope words = louderRead <$> level.read scope words ∧
    ∀ last next, level.read scope words = .ok (last, next) → last.Calm

lemma tracksRead_of_separated (h : level.Calm) (hs : level.separated = true)
    (words : List Bytes) : TracksRead level scope words := by
  refine ⟨?_, ?_⟩
  · have hlouder : level.louder.separated = true := hs
    cases words with
    | nil => rfl
    | cons word rest =>
      unfold read
      simp only [hs, hlouder, Bool.or_true, Bool.true_or, if_true, Level.take]
      rfl
  · intro last next hr
    obtain ⟨-, rfl, -⟩ := read_separated hs hr
    exact h

lemma tracksRead (h : level.Calm) {words : List Bytes} (hv : ¬HasVerboseFlag words) :
    TracksRead level scope words := by
  induction words generalizing level with
  | nil =>
    refine ⟨rfl, ?_⟩
    rintro _ _ ⟨⟩
    exact h
  | cons word rest ih =>
    unfold TracksRead read
    have hsame : (scope.isSome || level.louder.separated || level.louder.awaits) =
        (scope.isSome || level.separated || level.awaits) := rfl
    rw [hsame]
    split
    · refine ⟨rfl, ?_⟩
      rintro _ _ ⟨⟩
      exact h
    · refine ⟨rfl, ?_⟩
      rintro _ _ ⟨⟩
    · obtain ⟨htake, hcalm⟩ : Tracks (level.take scope word) (level.louder.take scope word) :=
        .take h (not_isVerboseFlag_head hv)
      rw [htake]
      cases ht : level.take scope word with
      | error e =>
        refine ⟨rfl, ?_⟩
        rintro _ _ ⟨⟩
      | ok taken =>
        by_cases hw : word = [hyphen, hyphen]
        · subst hw
          exact tracksRead_of_separated (hcalm taken ht) (separated_of_take ht) rest
        · exact ih (hcalm taken ht) (not_hasVerboseFlag_tail hv hw)

lemma finish_louder (h : level.Calm) (env : Environment) :
    level.louder.finish env = (fun found => (found.1.loud, found.2)) <$> level.finish env := by
  obtain ⟨hsettle, -⟩ := tracks_settle h
  rw [finish_eq, finish_eq, hsettle]
  cases level.settle with
  | error e => rfl
  | ok settled =>
    change (settled.options.loud, ·) <$> lift (settled.options.inherited env) =
      (fun found => (found.1.loud, found.2)) <$>
        ((settled.options, ·) <$> lift (settled.options.inherited env))
    cases settled.options.inherited env <;> rfl

end Level

lemma read_verbose_cons (words : List Bytes) :
    Level.read {} none (Opt.verbose.word :: words) =
      ({} : Level).louder.read none words := by
  have hpage : Page.ofName? Opt.verbose.word = none := by decide +kernel
  have htake : ({} : Level).take none Opt.verbose.word =
      .ok ({} : Level).louder := by decide +kernel
  rw [Level.read]
  simp only [Option.isSome_none, Level.awaits, Bool.or_self, Bool.false_eq_true, if_false, hpage,
    htake]
  rfl

def loud (invocation : Invocation) : Invocation := { invocation with verbose := true }

lemma read_verbose (env : Environment) {words : List Bytes}
    (hv : ¬HasVerboseFlag words) :
    read env (Opt.verbose.word :: words) = loud <$> read env words := by
  have hcalm : ({} : Level).Calm := .of_pending_none rfl
  have hloud : Level.read {} none (Opt.verbose.word :: words) =
      Level.louderRead <$> Level.read {} none words := by
    rw [read_verbose_cons]
    exact (Level.tracksRead hcalm hv).1
  cases hr : Level.read {} none words with
  | error stop =>
    rw [hr] at hloud
    rw [read_of_stop hr, read_of_stop hloud]
    rfl
  | ok result =>
    obtain ⟨level, next⟩ := result
    have hfinish := Level.finish_louder ((Level.tracksRead hcalm hv).2 level next hr) env
    rw [hr] at hloud
    cases next with
    | none =>
      rw [read_of_level hr, read_of_level hloud, hfinish]
      cases level.finish env <;> rfl
    | some next =>
      obtain ⟨command, rest⟩ := next
      rw [read_of_levels hr, read_of_levels hloud, hfinish]
      cases Level.read {} (some command) rest with
      | error stop => rfl
      | ok inner =>
        change (inner.1.finish env >>= _) = loud <$> (inner.1.finish env >>= _)
        cases inner.1.finish env with
        | error stop => rfl
        | ok found =>
          change joined command found <$> (_ <$> level.finish env) =
            loud <$> joined command found <$> level.finish env
          cases level.finish env with
          | error stop => rfl
          | ok outer =>
            simp [joined, loud, Options.loud, Options.orElse, Options.invocation]

end Locator.CommandLine
