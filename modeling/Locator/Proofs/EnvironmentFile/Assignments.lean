import Locator.Proofs.EnvironmentFile.Frame
import Locator.Proofs.Text.Utf8

/-! The first assignment to a variable decides, with the values that the variables have by then. -/

namespace Locator

lemma Environment.isSome_text?_iff {env : Environment} {name : String} :
    (env.text? name).isSome ↔ ∃ text, env.get? name = some (Utf8.encode text) := by
  rw [text?, Option.isSome_iff_exists]
  constructor
  · rintro ⟨text, htext⟩
    obtain ⟨raw, hraw, hdecode⟩ := Option.bind_eq_some_iff.mp htext
    rw [Utf8.decode?_eq_some] at hdecode
    exact ⟨text, hdecode ▸ hraw⟩
  · rintro ⟨text, hraw⟩
    refine ⟨text, ?_⟩
    rw [hraw, Option.bind_some, Utf8.decode?_eq_some]

namespace EnvironmentFile

variable {as : List Assignment} {a : Assignment} {env filled : Environment} {name : String}
  {raw : Bytes}

lemma get?_of_fill?_ne (h : a.fill? env = some filled) (hn : a.name ≠ name) :
    filled.get? name = env.get? name := by
  rcases fill?_eq_some h with rfl | ⟨value, rfl⟩
  · rfl
  · exact env.get?_set_of_ne value (Ne.symm hn)

lemma get?_of_fill?_text {text : String} (h : a.fill? env = some filled)
    (htext : env.get? name = some (Utf8.encode text)) :
    filled.get? name = some (Utf8.encode text) := by
  by_cases hn : a.name = name
  · have hset : (env.text? a.name).isSome :=
      Environment.isSome_text?_iff.mpr ⟨text, hn ▸ htext⟩
    rw [Assignment.fill?, if_pos hset] at h
    cases h
    exact htext
  · rw [get?_of_fill?_ne h hn, htext]

lemma get?_of_fill?_gap (h : a.fill? env = some filled) (hgap : env.text? a.name = none) :
    filled.get? a.name = some (Utf8.encode (a.value.expand env)) := by
  have hunset : ¬(env.text? a.name).isSome := by simp [hgap]
  rw [Assignment.fill?, if_neg hunset] at h
  dsimp only at h
  split at h
  · cases h
  · cases h
    exact env.get?_set_self a.name _

lemma fill?_eq_none :
    a.fill? env = none ↔
      env.text? a.name = none ∧ '\x00' ∈ (a.value.expand env).toList := by
  rw [Assignment.fill?]
  cases env.text? a.name with
  | some text => simp
  | none => simp

lemma foldlM_keeps {P : Environment → Prop} (h : as.foldlM Assignment.fill? env = some filled)
    (hstart : P env) (hstep : ∀ a ∈ as, ∀ env next, a.fill? env = some next → P env → P next) :
    P filled := by
  induction as generalizing env with
  | nil =>
    cases h
    exact hstart
  | cons a rest ih =>
    rw [List.foldlM_cons] at h
    obtain ⟨next, hnext, hrest⟩ := Option.bind_eq_some_iff.mp h
    apply ih hrest (hstep a List.mem_cons_self env next hnext hstart)
    intro b hb
    exact hstep b (List.mem_cons_of_mem a hb)

lemma get?_of_foldlM_ne (h : as.foldlM Assignment.fill? env = some filled)
    (hn : ∀ a ∈ as, a.name ≠ name) : filled.get? name = env.get? name := by
  apply foldlM_keeps (P := fun reached => reached.get? name = env.get? name) h rfl
  intro a ha reached next hnext hreached
  rw [get?_of_fill?_ne hnext (hn a ha), hreached]

lemma get?_of_foldlM_text {text : String} (h : as.foldlM Assignment.fill? env = some filled)
    (htext : env.get? name = some (Utf8.encode text)) :
    filled.get? name = some (Utf8.encode text) := by
  apply foldlM_keeps (P := fun reached => reached.get? name = some (Utf8.encode text)) h htext
  intro a _ reached next
  exact get?_of_fill?_text

def Gives (as : List Assignment) (env : Environment) (name : String) (raw : Bytes) : Prop :=
  ∃ before a after reached, as = before ++ a :: after ∧ (∀ b ∈ before, b.name ≠ name) ∧
    a.name = name ∧ before.foldlM Assignment.fill? env = some reached ∧
    raw = Utf8.encode (a.value.expand reached)

lemma text?_of_foldlM_ne (h : as.foldlM Assignment.fill? env = some filled)
    (hn : ∀ a ∈ as, a.name ≠ name) : filled.text? name = env.text? name := by
  rw [Environment.text?, Environment.text?, get?_of_foldlM_ne h hn]

lemma get?_of_gives (h : as.foldlM Assignment.fill? env = some filled)
    (hgap : env.text? name = none) (hgives : Gives as env name raw) :
    filled.get? name = some raw := by
  obtain ⟨before, a, after, reached, rfl, hbefore, rfl, hreached, rfl⟩ := hgives
  rw [List.foldlM_append, hreached] at h
  change (a :: after).foldlM Assignment.fill? reached = some filled at h
  rw [List.foldlM_cons] at h
  obtain ⟨next, hnext, hrest⟩ := Option.bind_eq_some_iff.mp h
  -- once the variable has text for a value, the assignments after this one pass it by
  have hstill : reached.text? a.name = none := (text?_of_foldlM_ne hreached hbefore).trans hgap
  exact get?_of_foldlM_text hrest (get?_of_fill?_gap hnext hstill)

lemma exists_gives (h : as.foldlM Assignment.fill? env = some filled) (hmem : a ∈ as) :
    ∃ raw, Gives as env a.name raw := by
  obtain ⟨first, hfirst⟩ := Option.isSome_iff_exists.mp
    (List.find?_isSome (p := (·.name == a.name)).mpr ⟨a, hmem, beq_self_eq_true a.name⟩)
  obtain ⟨hname, before, after, rfl, hbefore⟩ := List.find?_eq_some_iff_append.mp hfirst
  rw [List.foldlM_append] at h
  obtain ⟨reached, hreached, -⟩ := Option.bind_eq_some_iff.mp h
  refine ⟨_, before, first, after, reached, rfl, ?_, beq_iff_eq.mp hname, hreached, rfl⟩
  intro b hb
  simpa using hbefore b hb

lemma get?_eq_some_iff_gives (h : as.foldlM Assignment.fill? env = some filled)
    (hgap : env.get? name = none) : filled.get? name = some raw ↔ Gives as env name raw := by
  have hnotext : env.text? name = none := by rw [Environment.text?, hgap, Option.bind_none]
  constructor
  · intro hraw
    have hmentioned : ∃ a ∈ as, a.name = name := by
      by_contra hnone
      have hn : ∀ a ∈ as, a.name ≠ name := fun a ha heq => hnone ⟨a, ha, heq⟩
      rw [get?_of_foldlM_ne h hn, hgap] at hraw
      cases hraw
    obtain ⟨a, hmem, rfl⟩ := hmentioned
    obtain ⟨given, hgives⟩ := exists_gives h hmem
    have hsame := (get?_of_gives h hnotext hgives).symm.trans hraw
    cases hsame
    exact hgives
  · exact get?_of_gives h hnotext

lemma isSome_text?_of_foldlM (h : as.foldlM Assignment.fill? env = some filled) (hmem : a ∈ as) :
    (filled.text? a.name).isSome := by
  rw [Environment.isSome_text?_iff]
  cases hgap : env.text? a.name with
  | none =>
    obtain ⟨raw, hgives⟩ := exists_gives h hmem
    have hraw := get?_of_gives h hgap hgives
    obtain ⟨-, b, -, reached, -, -, -, -, rfl⟩ := hgives
    exact ⟨_, hraw⟩
  | some text =>
    obtain ⟨text, htext⟩ := Environment.isSome_text?_iff.mp (hgap ▸ Option.isSome_some)
    exact ⟨text, get?_of_foldlM_text h htext⟩

lemma isSome_text?_of_fill? (h : a.fill? env = some filled) : (filled.text? a.name).isSome := by
  have hone : [a].foldlM Assignment.fill? env = some filled := by
    rw [List.foldlM_cons, h]
    rfl
  exact isSome_text?_of_foldlM hone List.mem_cons_self

lemma foldlM_of_isSome_text? (h : ∀ a ∈ as, (env.text? a.name).isSome) :
    as.foldlM Assignment.fill? env = some env := by
  induction as with
  | nil => rfl
  | cons a rest ih =>
    have hfill : a.fill? env = some env := if_pos (h a List.mem_cons_self)
    rw [List.foldlM_cons, hfill]
    exact ih fun b hb => h b (List.mem_cons_of_mem a hb)

lemma load?_of_load? {host : Host Id} (h : load? host env = some filled) :
    load? host filled = some filled := by
  rw [load?_eq] at h ⊢
  apply foldlM_of_isSome_text?
  intro a hmem
  exact isSome_text?_of_foldlM h hmem

def Unfit (as : List Assignment) (env : Environment) : Prop :=
  ∃ name text, env.text? name = none ∧ Gives as env name (Utf8.encode text) ∧ '\x00' ∈ text.toList

lemma Unfit.cons {next : Environment} (hnext : a.fill? env = some next) (h : Unfit as next) :
    Unfit (a :: as) env := by
  obtain ⟨name, text, hgap, hgives, hnul⟩ := h
  obtain ⟨before, b, after, reached, rfl, hbefore, hb, hreached, hraw⟩ := hgives
  -- the variable of `a` has text by now, so that the gap is in another one
  have hn : a.name ≠ name := by
    rintro rfl
    have hset := isSome_text?_of_fill? hnext
    rw [hgap] at hset
    cases hset
  have hstill : env.text? name = none := by
    rw [← hgap, Environment.text?, Environment.text?, get?_of_fill?_ne hnext hn]
  refine ⟨name, text, hstill, ⟨a :: before, b, after, reached, rfl, ?_, hb, ?_, hraw⟩, hnul⟩
  · rintro c (_ | ⟨_, hc⟩)
    · exact hn
    · exact hbefore c hc
  · rw [List.foldlM_cons, hnext]
    exact hreached

lemma unfit_of_foldlM (h : as.foldlM Assignment.fill? env = none) : Unfit as env := by
  induction as generalizing env with
  | nil => cases h
  | cons a rest ih =>
    cases hnext : a.fill? env with
    | none =>
      obtain ⟨hgap, hnul⟩ := fill?_eq_none.mp hnext
      exact ⟨a.name, _, hgap, ⟨[], a, rest, env, rfl, nofun, rfl, rfl, rfl⟩, hnul⟩
    | some next =>
      rw [List.foldlM_cons, hnext] at h
      exact (ih h).cons hnext

lemma foldlM_of_unfit (h : Unfit as env) : as.foldlM Assignment.fill? env = none := by
  obtain ⟨name, text, hgap, hgives, hnul⟩ := h
  obtain ⟨before, a, after, reached, rfl, hbefore, rfl, hreached, hraw⟩ := hgives
  have htext : text = a.value.expand reached := by
    have hback := congrArg Utf8.decode? hraw
    rw [Utf8.decode?_eq_some.mpr rfl, Utf8.decode?_eq_some.mpr rfl] at hback
    exact Option.some.inj hback
  have hstill : reached.text? a.name = none := (text?_of_foldlM_ne hreached hbefore).trans hgap
  have hstop : a.fill? reached = none := fill?_eq_none.mpr ⟨hstill, htext ▸ hnul⟩
  rw [List.foldlM_append, hreached]
  change (a :: after).foldlM Assignment.fill? reached = none
  rw [List.foldlM_cons, hstop]
  rfl

/-- What the assignments make of `env`: a variable that has text for a value, or that no assignment
names, stays as it is, and every other one gets what the first assignment to it gives. -/
structure Filled (as : List Assignment) (env filled : Environment) : Prop where
  kept : ∀ name, filled.get? name = env.get? name ↔
    (env.text? name).isSome ∨ ∀ a ∈ as, a.name ≠ name
  given : ∀ a ∈ as, env.text? a.name = none →
    ∃ raw, Gives as env a.name raw ∧ filled.get? a.name = some raw

lemma filled_of_foldlM (h : as.foldlM Assignment.fill? env = some filled) :
    Filled as env filled where
  kept name := by
    constructor
    · intro hsame
      by_contra hnot
      obtain ⟨hgap, hnamed⟩ := not_or.mp hnot
      push Not at hnamed
      obtain ⟨a, hmem, rfl⟩ := hnamed
      have hset := isSome_text?_of_foldlM h hmem
      rw [Environment.text?, hsame] at hset
      exact hgap hset
    · rintro (hset | hn)
      · obtain ⟨text, htext⟩ := Environment.isSome_text?_iff.mp hset
        rw [htext, get?_of_foldlM_text h htext]
      · exact get?_of_foldlM_ne h hn
  given a hmem hgap := by
    obtain ⟨raw, hgives⟩ := exists_gives h hmem
    exact ⟨raw, hgives, get?_of_gives h hgap hgives⟩

end EnvironmentFile

end Locator
