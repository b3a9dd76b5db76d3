import Locator.CommandLine.Reader
import Mathlib.Data.List.TakeWhile

namespace Locator.CommandLine

lemma splitValue_eq_none {raw name : Bytes} (h : splitValue raw = (name, none)) :
    raw = name ∧ equals ∉ name := by
  unfold splitValue at h
  split at h
  · next hd =>
    cases h
    refine ⟨rfl, ?_⟩
    intro hmem
    have hne := List.dropWhile_eq_nil_iff.mp hd equals hmem
    simp at hne
  · cases h

lemma splitValue_eq_some {raw name value : Bytes} (h : splitValue raw = (name, some value)) :
    raw = name ++ equals :: value ∧ equals ∉ name := by
  unfold splitValue at h
  split at h
  · cases h
  · next sign rest hd =>
    cases h
    have hsign : sign = equals := by
      have hhead := List.head?_dropWhile_not (· ≠ equals) raw
      rw [hd] at hhead
      simpa using hhead
    refine ⟨?_, ?_⟩
    · subst hsign
      rw [← hd]
      exact List.takeWhile_append_dropWhile.symm
    · intro hmem
      have hne := List.mem_takeWhile_imp hmem
      simp at hne

lemma ne_equals_of_notMem {name : Bytes} (h : equals ∉ name) :
    ∀ b ∈ name, (decide (b ≠ equals)) = true := by
  intro b hb
  simp only [ne_eq, decide_eq_true_eq]
  rintro rfl
  exact h hb

lemma splitValue_of_bare {name : Bytes} (h : equals ∉ name) : splitValue name = (name, none) := by
  have hnil : name.dropWhile (· ≠ equals) = [] :=
    List.dropWhile_eq_nil_iff.mpr (ne_equals_of_notMem h)
  simp only [splitValue, hnil]

lemma splitValue_of_attached {name : Bytes} (h : equals ∉ name) (value : Bytes) :
    splitValue (name ++ equals :: value) = (name, some value) := by
  have hdrop : (name ++ equals :: value).dropWhile (· ≠ equals) = equals :: value := by
    rw [List.dropWhile_append_of_pos (ne_equals_of_notMem h)]
    simp
  have htake : (name ++ equals :: value).takeWhile (· ≠ equals) = name := by
    rw [List.takeWhile_append_of_pos (ne_equals_of_notMem h)]
    simp
  simp only [splitValue, hdrop, htake]

def Opt.word (o : Opt) : Bytes := hyphen :: hyphen :: Utf8.encode o.name

lemma Opt.name_of_ofName? {scope : Option Command} {name : Bytes} {o : Opt}
    (h : ofName? scope name = some o) : name = Utf8.encode o.name := by
  have hfound := List.find?_some h
  exact (eq_of_beq hfound).symm

lemma Opt.letter_of_ofLetter? {scope : Option Command} {letter : UInt8} {o : Opt}
    (h : ofLetter? scope letter = some o) : o.letter?.map Char.toUInt8 = some letter := by
  have hfound := List.find?_some h
  exact eq_of_beq hfound

namespace Word

inductive Spells : Bytes → Word → Prop
  | separator : Spells [hyphen, hyphen] .separator
  | bare {name : Bytes} : equals ∉ name → Spells (hyphen :: hyphen :: name) (.long name none)
  | attached {name : Bytes} (value : Bytes) : equals ∉ name →
      Spells (hyphen :: hyphen :: (name ++ equals :: value)) (.long name (some value))
  | letters {letter : UInt8} (letters : Bytes) : letter ≠ hyphen →
      Spells (hyphen :: letter :: letters) (.letters (letter :: letters))
  | plain {raw : Bytes} : ¬[hyphen, hyphen] <+: raw → Spells raw .plain

lemma spells_long (rest : Bytes) :
    Spells (hyphen :: hyphen :: rest) (.long (splitValue rest).1 (splitValue rest).2) := by
  rcases hs : splitValue rest with ⟨name, _ | value⟩
  · obtain ⟨rfl, hname⟩ := splitValue_eq_none hs
    exact .bare hname
  · obtain ⟨rfl, hname⟩ := splitValue_eq_some hs
    exact .attached value hname

lemma spells_ofBytes (raw : Bytes) : Spells raw (ofBytes raw) := by
  match raw with
  | [] => exact .plain (by simp)
  | [first] =>
    have hplain : ofBytes [first] = .plain := by simp [ofBytes]
    rw [hplain]
    exact .plain fun h => by simpa using h.length_le
  | first :: second :: rest =>
    by_cases hfirst : first = hyphen
    · by_cases hsecond : second = hyphen
      · subst hfirst hsecond
        by_cases hrest : rest = []
        · subst hrest
          exact .separator
        · have hlong : ofBytes (hyphen :: hyphen :: rest) =
              .long (splitValue rest).1 (splitValue rest).2 := by simp [ofBytes, hrest]
          rw [hlong]
          exact spells_long rest
      · subst hfirst
        have hletters : ofBytes (hyphen :: second :: rest) = .letters (second :: rest) := by
          simp [ofBytes, hsecond]
        rw [hletters]
        exact .letters rest hsecond
    · have hplain : ofBytes (first :: second :: rest) = .plain := by simp [ofBytes, hfirst]
      rw [hplain]
      refine .plain ?_
      rintro ⟨tail, htail⟩
      cases htail
      exact hfirst rfl

end Word

lemma Level.stop_eq (level : Level) (reason : Stop) :
    level.stop reason = lift level.settle >>= fun _ => .error reason := by
  unfold stop
  cases level.settle <;> rfl

lemma Level.stop_ne_ok {level next : Level} {reason : Stop} : level.stop reason ≠ .ok next := by
  rw [stop_eq]
  cases level.settle <;> nofun

lemma Level.separated_of_take {level taken : Level} {scope : Option Command}
    (h : level.take scope [hyphen, hyphen] = .ok taken) : taken.separated = true := by
  unfold take at h
  split at h
  · cases h
  · cases h
    rfl

lemma Level.read_separated {level last : Level} {scope : Option Command} {words : List Bytes}
    {more : Option (Command × List Bytes)} (hs : level.separated = true)
    (h : level.read scope words = .ok (last, more)) : words = [] ∧ last = level ∧ more = none := by
  cases words with
  | nil =>
    cases h
    exact ⟨rfl, rfl, rfl⟩
  | cons word rest =>
    unfold read at h
    simp only [hs, Bool.or_true, Bool.true_or, if_true, take] at h
    cases h

lemma Level.finish_eq (level : Level) (env : Environment) :
    level.finish env = lift level.settle >>= fun settled =>
      (settled.options, ·) <$> lift (settled.options.inherited env) := by
  unfold finish
  cases level.settle with
  | error e => rfl
  | ok settled =>
    change lift (settled.options.inherited env >>= fun inherited =>
      pure (settled.options, inherited)) =
        (settled.options, ·) <$> lift (settled.options.inherited env)
    cases settled.options.inherited env <;> rfl

def joined (command : Command) (inner outer : Options × Options) : Invocation :=
  ((inner.1.orElse outer.1).orElse (inner.2.orElse outer.2)).invocation (some command)

variable {words rest : List Bytes} {level : Level} {command : Command}

lemma read_of_stop {stop : Stop} (h : Level.read {} none words = .error stop)
    (env : Environment) : read env words = .error stop := by
  rw [read, h]
  rfl

lemma read_of_level (h : Level.read {} none words = .ok (level, none)) (env : Environment) :
    read env words = (fun found => (found.1.orElse found.2).invocation none) <$>
      level.finish env := by
  rw [read, h]
  rfl

lemma read_of_levels (h : Level.read {} none words = .ok (level, some (command, rest)))
    (env : Environment) :
    read env words = (do
      let inner ← Level.read {} (some command) rest
      let found ← inner.1.finish env
      joined command found <$> level.finish env) := by
  rw [read, h]
  rfl

end Locator.CommandLine
