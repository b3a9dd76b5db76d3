import Locator.Proofs.CommandLine.DefaultCommand
import Locator.Proofs.CommandLine.Verbosity

/-! What a level holds in the end is what its options enter, in order. -/

namespace Locator.CommandLine

namespace Opt

def settable : List Opt :=
  [.extensionRoot, .trusted, .strategy, .executablePath, .settings, .verbose]

def detachable : List Opt := [.extensionRoot, .strategy, .executablePath, .settings]

lemma detachable_subset : detachable ⊆ settable := by decide

lemma ofName?_name (scope : Option Command) :
    ∀ o ∈ settable, ofName? scope (Utf8.encode o.name) = some o := by
  rcases scope with _ | _ | _ <;> decide +kernel

end Opt

/-- An option with the words that give it: `--name=value`, `--name value`, a bare `--trusted`, or
the verbose flag in either spelling. -/
inductive Occurrence where
  | attached (opt : Opt) (value : Bytes) (hopt : opt ∈ Opt.settable)
  | detached (opt : Opt) (value : Bytes) (hopt : opt ∈ Opt.detachable)
      (hvalue : value.head? ≠ some hyphen)
  | trusted
  | verbose (long : Bool)

namespace Occurrence

def opt : Occurrence → Opt
  | .attached opt _ _ => opt
  | .detached opt _ _ _ => opt
  | .trusted => .trusted
  | .verbose _ => .verbose

def words : Occurrence → List Bytes
  | .attached opt value _ => [opt.word ++ equals :: value]
  | .detached opt value _ _ => [opt.word, value]
  | .trusted => [Opt.trusted.word]
  | .verbose true => [Opt.verbose.word]
  | .verbose false => [[hyphen, verboseLetter]]

def value? : Occurrence → Option Bytes
  | .attached opt value _ => if opt = .verbose then none else some value
  | .detached _ value _ _ => some value
  | .trusted => some (Utf8.encode "true")
  | .verbose _ => some []

def enter? (occ : Occurrence) (given : Options) : Option Options :=
  occ.value?.bind fun raw => (given.enter occ.opt raw).toOption

def enterAll? (occs : List Occurrence) (given? : Option Options) : Option Options :=
  occs.foldl (fun given? occ => given?.bind occ.enter?) given?

lemma enterAll?_none (occs : List Occurrence) : enterAll? occs none = none := by
  induction occs with
  | nil => rfl
  | cons occ occs ih => exact ih

end Occurrence

namespace Word

lemma ofBytes_bare (o : Opt) : ofBytes o.word = .long (Utf8.encode o.name) none := by
  have hname : Utf8.encode o.name ≠ [] := by cases o <;> decide
  simp [ofBytes, Opt.word, hname, splitValue_of_bare o.equals_notMem_name]

lemma ofBytes_attached (o : Opt) (value : Bytes) :
    ofBytes (o.word ++ equals :: value) = .long (Utf8.encode o.name) (some value) := by
  simp [ofBytes, Opt.word, splitValue_of_attached o.equals_notMem_name]

lemma ofBytes_plain {raw : Bytes} (h : raw.head? ≠ some hyphen) : ofBytes raw = .plain := by
  cases raw with
  | nil => rfl
  | cons first rest =>
    have hfirst : first ≠ hyphen := by simpa using h
    simp [ofBytes, hfirst]

end Word

lemma Page.ofName?_hyphen (rest : Bytes) : Page.ofName? (hyphen :: rest) = none := by
  have hne (name : Bytes) (h : name.head? ≠ some hyphen) : hyphen :: rest ≠ name := by
    rintro rfl
    exact h rfl
  have hcommand : Command.ofName? (hyphen :: rest) = none := by
    apply List.find?_eq_none.mpr
    intro command _ hname
    exact hne (Utf8.encode command.name) (by cases command <;> decide) (eq_of_beq hname).symm
  rw [Page.ofName?, if_neg (hne (Utf8.encode helpName) (by decide)), hcommand]
  rfl

namespace Level

variable {level : Level} {scope : Option Command}

def given? (level : Level) : Option Options := level.settle.toOption.map Level.options

structure Open (level : Level) : Prop where
  separated : level.separated = false
  awaits : level.awaits = false

/-- Reading `words` takes a level to another one that holds `given?`, whatever follows, or stops
when there is nothing to hold. -/
inductive Takes (level : Level) (scope : Option Command) (words : List Bytes) :
    Option Options → Prop
  | taken (next : Level) : next.Open →
      (∀ rest, level.read scope (words ++ rest) = next.read scope rest) →
      Takes level scope words next.given?
  | refused (e : UsageError) :
      (∀ rest, level.read scope (words ++ rest) = .error (.usage e)) → Takes level scope words none

lemma read_hyphen (level : Level) (scope : Option Command) (word : Bytes) (rest : List Bytes) :
    level.read scope ((hyphen :: word) :: rest) =
      level.take scope (hyphen :: word) >>= fun next => next.read scope rest := by
  rw [read, Page.ofName?_hyphen, ite_self]

lemma Open.of_options (given : Options) : Open { options := given } := ⟨rfl, rfl⟩

lemma Open.settle (h : level.Open) :
    (∃ e, level.settle = .error e ∧ level.given? = none) ∨
      ∃ given, level.settle = .ok { options := given } ∧ level.given? = some given := by
  obtain ⟨hseparated, hawaits⟩ := h
  obtain ⟨options, _ | ⟨o, _ | raw⟩, separated⟩ := level
  · cases hseparated
    exact .inr ⟨options, rfl, rfl⟩
  · cases hawaits
  · cases hseparated
    simp only [given?, Level.settle]
    cases options.enter o raw with
    | error e => exact .inl ⟨e, rfl, rfl⟩
    | ok entered => exact .inr ⟨entered, rfl, rfl⟩

lemma Takes.of_enter (hopen : level.Open) {o : Opt} {raw word : Bytes}
    (h : level.take scope (hyphen :: word) = lift (level.enter o raw)) :
    Takes level scope [hyphen :: word]
      (level.given?.bind fun given => (given.enter o raw).toOption) := by
  have hread (rest : List Bytes) : level.read scope ([hyphen :: word] ++ rest) =
      lift (level.enter o raw) >>= fun next => next.read scope rest := by
    rw [List.singleton_append, read_hyphen, h]
  obtain ⟨e, hsettle, hgiven⟩ | ⟨given, hsettle, hgiven⟩ := hopen.settle
  · rw [hgiven]
    refine .refused e fun rest => ?_
    rw [hread, Level.enter, hsettle]
    rfl
  · rw [hgiven, Option.bind_some]
    have henter : level.enter o raw =
        (given.enter o raw).map fun entered => { options := entered } := by
      rw [Level.enter, hsettle]
      rfl
    rw [henter] at hread
    cases hentered : given.enter o raw with
    | error e =>
      refine .refused e fun rest => ?_
      rw [hread, hentered]
      rfl
    | ok entered =>
      refine .taken { options := entered } (.of_options entered) fun rest => ?_
      rw [hread, hentered]
      rfl

lemma Takes.of_await (hopen : level.Open) {o : Opt} {word value : Bytes}
    (h : level.take scope (hyphen :: word) = lift (level.await o))
    (hvalue : value.head? ≠ some hyphen) :
    Takes level scope [hyphen :: word, value]
      (level.given?.bind fun given => (given.enter o value).toOption) := by
  have hread (rest : List Bytes) : level.read scope ([hyphen :: word, value] ++ rest) =
      lift (level.await o) >>= fun next => next.read scope (value :: rest) := by
    rw [List.cons_append, List.singleton_append, read_hyphen, h]
  obtain ⟨e, hsettle, hgiven⟩ | ⟨given, hsettle, hgiven⟩ := hopen.settle
  · rw [hgiven]
    refine .refused e fun rest => ?_
    rw [hread, Level.await, hsettle]
    rfl
  · rw [hgiven, Option.bind_some]
    let next : Level := { options := given, pending := some (o, some value) }
    have hnext : next.given? = (given.enter o value).toOption := by
      simp only [given?, next, Level.settle]
      cases given.enter o value <;> rfl
    rw [← hnext]
    refine .taken next ⟨rfl, rfl⟩ fun rest => ?_
    have hawait : level.await o = .ok { options := given, pending := some (o, none) } := by
      rw [Level.await, hsettle]
      rfl
    have htake : Level.take { options := given, pending := some (o, none) } scope value =
        .ok next := by
      rw [Level.take, Word.ofBytes_plain hvalue]
      rfl
    rw [hread, hawait]
    change Level.read { options := given, pending := some (o, none) } scope (value :: rest) = _
    rw [Level.read, htake]
    simp only [awaits, Bool.or_true, if_true]
    rfl

lemma take_of_long (hopen : level.Open) {word name : Bytes} {value : Option Bytes}
    (h : Word.ofBytes word = .long name value) :
    level.take scope word = level.takeLong scope name value := by
  rw [take, hopen.separated, h]
  rfl

lemma Takes.of_occurrence (hopen : level.Open) (occ : Occurrence) :
    Takes level scope occ.words (level.given?.bind occ.enter?) := by
  cases occ with
  | attached o value ho =>
    have htake : level.take scope (o.word ++ equals :: value) =
        level.takeLong scope (Utf8.encode o.name) (some value) :=
      take_of_long hopen (Word.ofBytes_attached o value)
    rw [takeLong, Opt.ofName?_name scope o ho] at htake
    cases o with
    | verbose =>
      have hnone : level.given?.bind (Occurrence.attached .verbose value ho).enter? = none := by
        cases level.given? <;> rfl
      rw [hnone]
      refine .refused .unwantedValue fun rest => ?_
      change level.read scope ((hyphen :: _) :: rest) = _
      rw [read_hyphen]
      change level.take scope (Opt.verbose.word ++ equals :: value) >>= _ = _
      rw [htake]
      rfl
    | help => exact absurd ho (by decide)
    | version => exact absurd ho (by decide)
    | _ => exact .of_enter hopen htake
  | detached o value ho hvalue =>
    have htake : level.take scope o.word = level.takeLong scope (Utf8.encode o.name) none :=
      take_of_long hopen (Word.ofBytes_bare o)
    rw [takeLong, Opt.ofName?_name scope o (Opt.detachable_subset ho)] at htake
    cases o with
    | trusted => exact absurd ho (by decide)
    | verbose => exact absurd ho (by decide)
    | help => exact absurd ho (by decide)
    | version => exact absurd ho (by decide)
    | _ => exact .of_await hopen htake hvalue
  | trusted =>
    have htake : level.take scope Opt.trusted.word =
        level.takeLong scope (Utf8.encode Opt.trusted.name) none :=
      take_of_long hopen (Word.ofBytes_bare .trusted)
    rw [takeLong, Opt.ofName?_name scope .trusted (by decide)] at htake
    exact .of_enter hopen htake
  | verbose long =>
    cases long with
    | true =>
      have htake : level.take scope Opt.verbose.word =
          level.takeLong scope (Utf8.encode Opt.verbose.name) none :=
        take_of_long hopen (Word.ofBytes_bare .verbose)
      rw [takeLong, Opt.ofName?_name scope .verbose (by decide)] at htake
      exact .of_enter hopen htake
    | false =>
      have hletter : Opt.ofLetter? scope verboseLetter = some .verbose := by
        rcases scope with _ | _ | _ <;> decide +kernel
      have htake : level.take scope [hyphen, verboseLetter] =
          level.flag scope false .verbose := by
        rw [take, hopen.separated]
        change level.takeLetters scope [verboseLetter] = _
        rw [takeLetters, hletter]
        change level.flag scope false .verbose >>= (fun next => .ok next) = _
        cases level.flag scope false .verbose <;> rfl
      exact .of_enter hopen htake

lemma Takes.append {words more : List Bytes} {given? last? : Option Options}
    (h : Takes level scope words given?)
    (hmore : ∀ next : Level, next.Open → next.given? = given? → Takes next scope more last?)
    (hnone : given? = none → last? = none) : Takes level scope (words ++ more) last? := by
  cases h with
  | refused e hread =>
    rw [hnone rfl]
    refine .refused e fun rest => ?_
    rw [List.append_assoc, hread]
  | taken next hnext hread =>
    cases hmore next hnext rfl with
    | refused e hrefused =>
      refine .refused e fun rest => ?_
      rw [List.append_assoc, hread, hrefused]
    | taken last hlast htaken =>
      refine .taken last hlast fun rest => ?_
      rw [List.append_assoc, hread, htaken]

lemma Takes.of_occurrences (hopen : level.Open) (occs : List Occurrence) :
    Takes level scope (occs.flatMap Occurrence.words)
      (Occurrence.enterAll? occs level.given?) := by
  induction occs generalizing level with
  | nil => exact .taken level hopen fun rest => rfl
  | cons occ occs ih =>
    change Takes level scope (occ.words ++ occs.flatMap Occurrence.words)
      (Occurrence.enterAll? occs (level.given?.bind occ.enter?))
    apply (Takes.of_occurrence hopen occ).append
    · intro next hnext hgiven
      rw [← hgiven]
      exact ih hnext
    · intro hnone
      rw [hnone, Occurrence.enterAll?_none]

end Level

end Locator.CommandLine
