import Locator.Proofs.CommandLine.Occurrences
import Mathlib.Data.List.Nodup

/-! Options that differ can change places, also across a command. -/

namespace Locator.CommandLine

namespace Options

structure Lacks (given : Options) (o : Opt) : Prop where
  slot : ∀ {α : Type} (slot : Slot α), slot.opt = o → slot.get given = none
  verbose : o = .verbose → given.verbose = false

def Apart (first second : Options) : Prop := ∀ o, first.Lacks o ∨ second.Lacks o

variable {given entered first second outer : Options} {o other : Opt} {raw : Bytes}

lemma lacks_empty (o : Opt) : Lacks {} o := ⟨fun slot _ => slot.start, fun _ => rfl⟩

lemma enter_verbose (h : given.enter other raw = .ok entered) (hne : other ≠ .verbose) :
    entered.verbose = given.verbose := by
  have hentered := enter_eq_ok h
  cases other with
  | verbose => exact absurd rfl hne
  | help => exact congrArg Options.verbose hentered
  | version => exact congrArg Options.verbose hentered
  | _ =>
    obtain ⟨-, a, -, rfl⟩ := hentered
    rfl

lemma Lacks.enter (h : given.Lacks o) (hne : other ≠ o)
    (hentered : given.enter other raw = .ok entered) : entered.Lacks o where
  slot slot hslot := by
    rw [slot.enter_other (hslot ▸ hne) hentered]
    exact h.slot slot hslot
  verbose ho := by
    rw [enter_verbose hentered (ho ▸ hne)]
    exact h.verbose ho

lemma orElse_comm (h : first.Apart second) : first.orElse second = second.orElse first := by
  apply ext_of_slots
  · intro α slot
    rw [slot.orElse, slot.orElse]
    obtain hnone | hnone := h slot.opt
    · rw [hnone.slot slot rfl, Option.none_or, Option.or_none]
    · rw [hnone.slot slot rfl, Option.none_or, Option.or_none]
  · exact Bool.or_comm _ _

lemma enter_orElse (h : outer.Lacks o) (raw : Bytes) :
    (given.orElse outer).enter o raw = (·.orElse outer) <$> given.enter o raw := by
  cases o with
  | extensionRoot =>
    have hnone : outer.extensionRoot = none := h.slot .extensionRoot rfl
    cases hv : once given.extensionRoot (readPath raw) <;> simp [enter, orElse, hnone, hv]
  | trusted =>
    have hnone : outer.trusted = none := h.slot .trusted rfl
    cases hv : once given.trusted (readSwitch raw) <;> simp [enter, orElse, hnone, hv]
  | strategy =>
    have hnone : outer.strategy = none := h.slot .strategy rfl
    cases hv : once given.strategy (readText raw) <;> simp [enter, orElse, hnone, hv]
  | executablePath =>
    have hnone : outer.executablePath = none := h.slot .executablePath rfl
    cases hv : once given.executablePath (readText raw) <;> simp [enter, orElse, hnone, hv]
  | settings =>
    have hnone : outer.settings = none := h.slot .settings rfl
    cases hv : once given.settings (readPath raw) <;> simp [enter, orElse, hnone, hv]
  | verbose =>
    have hnone : outer.verbose = false := h.verbose rfl
    cases hv : given.verbose <;> simp [enter, orElse, hnone, hv]
  | help => rfl
  | version => rfl

end Options

namespace Occurrence

variable {occs before after occs' : List Occurrence} {given outer inner : Options} {o : Opt}

lemma enter?_orElse (occ : Occurrence) (h : outer.Lacks occ.opt) :
    occ.enter? (given.orElse outer) = (occ.enter? given).map (·.orElse outer) := by
  cases hvalue : occ.value? with
  | none => simp only [enter?, hvalue, Option.bind_none, Option.map_none]
  | some raw =>
    simp only [enter?, hvalue, Option.bind_some, Options.enter_orElse h]
    cases given.enter occ.opt raw <;> rfl

lemma enterAll?_orElse (h : ∀ occ ∈ occs, outer.Lacks occ.opt) (given? : Option Options) :
    enterAll? occs (given?.map (·.orElse outer)) =
      (enterAll? occs given?).map (·.orElse outer) := by
  induction occs generalizing given? with
  | nil => rfl
  | cons occ occs ih =>
    rw [List.forall_mem_cons] at h
    have hstep : (given?.map (·.orElse outer)).bind occ.enter? =
        (given?.bind occ.enter?).map (·.orElse outer) := by
      cases given? with
      | none => rfl
      | some given => exact occ.enter?_orElse h.1
    change enterAll? occs ((given?.map (·.orElse outer)).bind occ.enter?) = _
    rw [hstep, ih h.2]
    rfl

lemma lacks_of_enterAll? {start : Options} (hstart : start.Lacks o) (ho : o ∉ occs.map opt)
    (h : enterAll? occs (some start) = some given) : given.Lacks o := by
  induction occs generalizing start with
  | nil =>
    cases h
    exact hstart
  | cons occ occs ih =>
    rw [List.map_cons, List.mem_cons, not_or] at ho
    change enterAll? occs (occ.enter? start) = some given at h
    cases hentered : occ.enter? start with
    | none =>
      rw [hentered, enterAll?_none] at h
      cases h
    | some entered =>
      rw [hentered] at h
      refine ih ?_ ho.2 h
      obtain ⟨raw, -, hraw⟩ := Option.bind_eq_some_iff.mp hentered
      exact hstart.enter (Ne.symm ho.1) (toOption_eq_some.mp hraw)

lemma apart_of_enterAll? (hapart : (before.map opt).Disjoint (after.map opt))
    (houter : enterAll? before (some {}) = some outer)
    (hinner : enterAll? after (some {}) = some inner) : inner.Apart outer := by
  intro o
  by_cases ho : o ∈ before.map opt
  · exact .inl (lacks_of_enterAll? (Options.lacks_empty o) (hapart ho) hinner)
  · exact .inr (lacks_of_enterAll? (Options.lacks_empty o) ho houter)

lemma enterAll?_append (hapart : (before.map opt).Disjoint (after.map opt)) :
    enterAll? (before ++ after) (some {}) =
      (enterAll? before (some {})).bind fun outer =>
        (enterAll? after (some {})).map (·.orElse outer) := by
  have hsplit : enterAll? (before ++ after) (some {}) =
      enterAll? after (enterAll? before (some {})) := List.foldl_append
  rw [hsplit]
  cases houter : enterAll? before (some {}) with
  | none => rw [enterAll?_none, Option.bind_none]
  | some outer =>
    rw [Option.bind_some]
    refine enterAll?_orElse ?_ (some {})
    intro occ hocc
    refine lacks_of_enterAll? (Options.lacks_empty _) ?_ houter
    intro hopt
    exact hapart hopt (List.mem_map_of_mem hocc)

lemma enterAll?_pair {x y : Occurrence} (h : x.opt ≠ y.opt) :
    enterAll? [x, y] (some {}) = enterAll? [y, x] (some {}) := by
  have hxy : ([x].map opt).Disjoint ([y].map opt) := by simpa using Ne.symm h
  have hfirst := enterAll?_append hxy
  have hsecond := enterAll?_append (List.disjoint_symm hxy)
  rw [List.singleton_append] at hfirst hsecond
  rw [hfirst, hsecond]
  cases hx : enterAll? [x] (some {}) with
  | none => cases enterAll? [y] (some {}) <;> rfl
  | some outer =>
    cases hy : enterAll? [y] (some {}) with
    | none => rfl
    | some inner => exact congrArg some (Options.orElse_comm (apart_of_enterAll? hxy hx hy))

/-- By induction on the permutation. Only neighbours change places. -/
lemma enterAll?_perm (hperm : occs.Perm occs') (hopts : (occs.map opt).Nodup) :
    enterAll? occs (some {}) = enterAll? occs' (some {}) := by
  induction hperm with
  | nil => rfl
  | @cons occ occs occs' hperm ih =>
    rw [List.map_cons, List.nodup_cons] at hopts
    have hfirst : ([occ].map opt).Disjoint (occs.map opt) := by simpa using hopts.1
    have hsecond : ([occ].map opt).Disjoint (occs'.map opt) :=
      (hperm.map opt).disjoint_right.mp hfirst
    rw [← List.singleton_append, enterAll?_append hfirst, ih hopts.2, ← enterAll?_append hsecond]
    rfl
  | swap x y occs =>
    have hne : y.opt ≠ x.opt := by
      rw [List.map_cons, List.map_cons, List.nodup_cons, List.mem_cons, not_or] at hopts
      exact hopts.1.1
    change enterAll? occs (enterAll? [y, x] (some {})) = enterAll? occs (enterAll? [x, y] (some {}))
    rw [enterAll?_pair hne]
  | trans hfirst _ ih₁ ih₂ =>
    rw [ih₁ hopts, ih₂ ((hfirst.map opt).nodup_iff.mp hopts)]

end Occurrence

variable {env : Environment} {command : Command}

lemma Slot.gap_of_apart {α : Type} (slot : Slot α) {inner outer : Options}
    (h : inner.Apart outer) :
    ((∃ found, Options.gap env slot.opt (slot.get inner) slot.read = .ok found) ∧
      ∃ found, Options.gap env slot.opt (slot.get outer) slot.read = .ok found) ↔
      ∃ found, Options.gap env slot.opt none slot.read = .ok found := by
  have hgiven (given? : Option α)
      (hgap : ∃ found, Options.gap env slot.opt none slot.read = .ok found) :
      ∃ found, Options.gap env slot.opt given? slot.read = .ok found := by
    cases given? with
    | some a => exact ⟨none, rfl⟩
    | none => exact hgap
  constructor
  · rintro ⟨hinner, houter⟩
    obtain hnone | hnone := h slot.opt
    · rwa [hnone.slot slot rfl] at hinner
    · rwa [hnone.slot slot rfl] at houter
  · intro hgap
    exact ⟨hgiven _ hgap, hgiven _ hgap⟩

lemma Options.Apart.inherited_iff {inner outer : Options} (h : inner.Apart outer)
    (env : Environment) :
    ((∃ found, inner.inherited env = .ok found) ∧ ∃ found, outer.inherited env = .ok found) ↔
      ∃ found, ({} : Options).inherited env = .ok found := by
  rw [Options.inherited_iff, Options.inherited_iff, Options.inherited_iff]
  constructor
  · rintro ⟨⟨hroot, htrusted, hstrategy, hpath⟩, hroot', htrusted', hstrategy', hpath'⟩
    exact ⟨(Slot.extensionRoot.gap_of_apart h).mp ⟨hroot, hroot'⟩,
      (Slot.trusted.gap_of_apart h).mp ⟨htrusted, htrusted'⟩,
      (Slot.strategy.gap_of_apart h).mp ⟨hstrategy, hstrategy'⟩,
      (Slot.executablePath.gap_of_apart h).mp ⟨hpath, hpath'⟩⟩
  · rintro ⟨hroot, htrusted, hstrategy, hpath⟩
    obtain ⟨hroot, hroot'⟩ := (Slot.extensionRoot.gap_of_apart h).mpr hroot
    obtain ⟨htrusted, htrusted'⟩ := (Slot.trusted.gap_of_apart h).mpr htrusted
    obtain ⟨hstrategy, hstrategy'⟩ := (Slot.strategy.gap_of_apart h).mpr hstrategy
    obtain ⟨hpath, hpath'⟩ := (Slot.executablePath.gap_of_apart h).mpr hpath
    exact ⟨⟨hroot, htrusted, hstrategy, hpath⟩, hroot', htrusted', hstrategy', hpath'⟩

lemma joined_of_own {inner outer own fromInner fromOuter : Options}
    (hown : ({} : Options).inherited env = .ok own)
    (hinner : inner.inherited env = .ok fromInner)
    (houter : outer.inherited env = .ok fromOuter) :
    joined command (inner, fromInner) (outer, fromOuter) =
      ((inner.orElse outer).orElse own).invocation (some command) := by
  have hsame : (inner.orElse outer).orElse (fromInner.orElse fromOuter) =
      (inner.orElse outer).orElse own := by
    apply Options.ext_of_slots
    · intro α slot
      simp only [slot.orElse]
      cases hi : slot.get inner with
      | some a => rfl
      | none =>
        cases ho : slot.get outer with
        | some a => rfl
        | none =>
          simp only [slot.get_inherited_of_none hown hinner hi,
            slot.get_inherited_of_none hown houter ho, Option.or_self]
    · simp only [Options.orElse, Options.verbose_of_inherited hinner,
        Options.verbose_of_inherited houter, Options.verbose_of_inherited hown, Bool.or_self]
  simp only [joined, hsame]

inductive Yields {α : Type} : Except Stop α → Option α → Prop
  | accepted (a : α) : Yields (.ok a) (some a)
  | rejected (e : UsageError) : Yields (.error (.usage e)) none

namespace Yields

variable {α β : Type} {x : Except Stop α} {x? : Option α}

lemma bind {f : α → Except Stop β} {f? : α → Option β} (h : Yields x x?)
    (hf : ∀ a, Yields (f a) (f? a)) : Yields (x >>= f) (x?.bind f?) := by
  cases h with
  | accepted a => exact hf a
  | rejected e => exact .rejected e

lemma map (f : α → β) (h : Yields x x?) : Yields (f <$> x) (x?.map f) := by
  cases h with
  | accepted a => exact .accepted (f a)
  | rejected e => exact .rejected e

lemma lift (x : Except UsageError α) : Yields (Level.lift x) x.toOption := by
  cases x with
  | error e => exact .rejected e
  | ok a => exact .accepted a

lemma eq_ok {a : α} (h : Yields x (some a)) : x = .ok a := by
  cases h
  rfl

lemma eq_usage (h : Yields x none) : ∃ e, x = .error (.usage e) := by
  cases h with
  | rejected e => exact ⟨e, rfl⟩

end Yields

def Options.finish? (env : Environment) (given : Options) : Option (Options × Options) :=
  (given.inherited env).toOption.map (given, ·)

lemma Level.yields_finish (level : Level) (env : Environment) :
    Yields (level.finish env) (level.given?.bind (Options.finish? env)) := by
  rw [finish_eq, given?, Option.bind_map]
  apply (Yields.lift level.settle).bind
  intro settled
  exact (Yields.lift _).map _

def arranged (before : List Occurrence) (command : Command) (after : List Occurrence) :
    List Bytes :=
  before.flatMap Occurrence.words ++
    Utf8.encode command.name :: after.flatMap Occurrence.words

open Occurrence (enterAll?)

lemma yields_levels (env : Environment) (before : List Occurrence) (command : Command)
    (after : List Occurrence) :
    Yields (read env (arranged before command after))
      (((enterAll? after (some {})).bind (Options.finish? env)).bind fun inner =>
        ((enterAll? before (some {})).bind (Options.finish? env)).map (joined command inner)) := by
  have houter : Level.Takes {} none (before.flatMap Occurrence.words)
      (enterAll? before (some {})) := .of_occurrences (.of_options {}) before
  have hinner : Level.Takes {} (some command) (after.flatMap Occurrence.words)
      (enterAll? after (some {})) := .of_occurrences (.of_options {}) after
  generalize enterAll? before (some {}) = outer? at houter
  generalize enterAll? after (some {}) = inner? at hinner
  cases houter with
  | refused e hread =>
    rw [arranged, read_of_stop (hread _)]
    simpa using Yields.rejected e
  | taken outer hopen hread =>
    have hlevels : Level.read {} none (arranged before command after) =
        .ok (outer, some (command, after.flatMap Occurrence.words)) := by
      rw [arranged, hread, Level.read_command hopen.separated hopen.awaits]
    rw [read_of_levels hlevels]
    cases hinner with
    | refused e hread =>
      have hstop := hread []
      rw [List.append_nil] at hstop
      rw [hstop]
      exact .rejected e
    | taken inner _ hread =>
      have hlast := hread []
      rw [List.append_nil] at hlast
      rw [hlast]
      apply (inner.yields_finish env).bind
      intro found
      exact (outer.yields_finish env).map _

/-- The options that are entered, with what the environment says when nothing is given. -/
def accepted? (env : Environment) (command : Command) (occs : List Occurrence) :
    Option Invocation :=
  (enterAll? occs (some {})).bind fun given =>
    (({} : Options).inherited env).toOption.map fun own =>
      (given.orElse own).invocation (some command)

lemma accepted?_append {before after : List Occurrence}
    (hapart : (before.map Occurrence.opt).Disjoint (after.map Occurrence.opt)) :
    accepted? env command (before ++ after) =
      ((enterAll? after (some {})).bind (Options.finish? env)).bind fun inner =>
        ((enterAll? before (some {})).bind (Options.finish? env)).map (joined command inner) := by
  rw [accepted?, Occurrence.enterAll?_append hapart]
  cases houter : enterAll? before (some {}) with
  | none => simp
  | some outer =>
    cases hinner : enterAll? after (some {}) with
    | none => rfl
    | some inner =>
      have hiff := (Occurrence.apart_of_enterAll? hapart houter hinner).inherited_iff env
      simp only [Option.bind_some, Option.map_some, Options.finish?]
      cases hown : ({} : Options).inherited env with
      | error e =>
        cases hfromInner : inner.inherited env with
        | error e => rfl
        | ok fromInner =>
          cases hfromOuter : outer.inherited env with
          | error e => rfl
          | ok fromOuter =>
            obtain ⟨own, hok⟩ := hiff.mp ⟨⟨fromInner, hfromInner⟩, fromOuter, hfromOuter⟩
            rw [hown] at hok
            cases hok
      | ok own =>
        obtain ⟨⟨fromInner, hfromInner⟩, fromOuter, hfromOuter⟩ := hiff.mpr ⟨own, hown⟩
        rw [hfromInner, hfromOuter]
        exact congrArg some (joined_of_own hown hfromInner hfromOuter).symm

/-- The order of options that differ does not matter, nor does the side of the command on which
each of them stands. -/
theorem read_rearranged (env : Environment) (command : Command) {occs : List Occurrence}
    (hopts : (occs.map Occurrence.opt).Nodup) :
    (∀ before after, (before ++ after).Perm occs →
      ∃ e, read env (arranged before command after) = .error (.usage e)) ∨
    ∃ invocation, ∀ before after, (before ++ after).Perm occs →
      read env (arranged before command after) = .ok invocation := by
  have hyields (before after : List Occurrence) (hperm : (before ++ after).Perm occs) :
      Yields (read env (arranged before command after)) (accepted? env command occs) := by
    have hnodup : ((before ++ after).map Occurrence.opt).Nodup :=
      (hperm.map Occurrence.opt).nodup_iff.mpr hopts
    have hsame : accepted? env command occs = accepted? env command (before ++ after) := by
      rw [accepted?, accepted?, Occurrence.enterAll?_perm hperm hnodup]
    rw [List.map_append] at hnodup
    rw [hsame, accepted?_append (List.disjoint_of_nodup_append hnodup)]
    exact yields_levels env before command after
  cases hresult : accepted? env command occs with
  | none =>
    left
    intro before after hperm
    exact (hresult ▸ hyields before after hperm).eq_usage
  | some invocation =>
    right
    refine ⟨invocation, ?_⟩
    intro before after hperm
    exact (hresult ▸ hyields before after hperm).eq_ok

theorem read_rearranged_detached :
    ∃ invocation : Invocation, invocation.strategy = some "path" ∧ ∀ before after,
      (before ++ after).Perm
        [.detached .strategy (Utf8.encode "path") (by decide) (by decide), .trusted,
          .verbose false] →
      read { entries := [("JARL_EXECUTABLE_STRATEGY", Utf8.encode "bundled")] }
        (arranged before .candidates after) = .ok invocation := by
  let occs : List Occurrence :=
    [.detached .strategy (Utf8.encode "path") (by decide) (by decide), .trusted, .verbose false]
  let env : Environment := { entries := [("JARL_EXECUTABLE_STRATEGY", Utf8.encode "bundled")] }
  have hfirst : read env (arranged occs .candidates []) =
      .ok { trusted := true, strategy := some "path", verbose := true,
            command := some .candidates } := by decide +kernel
  have hopts : (occs.map Occurrence.opt).Nodup := by decide
  obtain hrejected | ⟨invocation, haccepted⟩ := read_rearranged env .candidates hopts
  · obtain ⟨e, he⟩ := hrejected occs [] (by simp)
    rw [hfirst] at he
    cases he
  · have hsame := haccepted occs [] (by simp)
    rw [hfirst] at hsame
    cases hsame
    exact ⟨_, rfl, haccepted⟩

end Locator.CommandLine
