import Locator.EnvironmentFile
import Mathlib.Data.List.Infix

/-! Environments that differ in one variable keep to that while no assignment refers to it. -/

namespace Locator

namespace Environment

def SameBut (hidden : String) (env₁ env₂ : Environment) : Prop :=
  env₁.unset hidden = env₂.unset hidden

variable {hidden name : String} {env₁ env₂ : Environment}

lemma SameBut.get? (h : SameBut hidden env₁ env₂) (hn : name ≠ hidden) :
    env₁.get? name = env₂.get? name := by
  have hlookup (env : Environment) : (env.unset hidden).get? name = env.get? name :=
    lookup_filter_ne env.entries hn
  rw [← hlookup env₁, ← hlookup env₂, h]

lemma SameBut.home (h : SameBut hidden env₁ env₂) (hn : "HOME" ≠ hidden) :
    env₁.home = env₂.home := by
  have huser : (env₁.unset hidden).userHome = (env₂.unset hidden).userHome := congrArg userHome h
  change env₁.userHome = env₂.userHome at huser
  rw [Environment.home, Environment.home, h.get? hn, huser]

lemma unset_set_self (env : Environment) (value : Bytes) :
    (env.set hidden value).unset hidden = env.unset hidden := by
  simp [set, unset]

lemma unset_set_of_ne (env : Environment) (value : Bytes) (hn : name ≠ hidden) :
    (env.set name value).unset hidden = (env.unset hidden).set name value := by
  simp only [set, unset, List.filter_cons, hn, ne_eq, not_false_eq_true, decide_true, if_true,
    List.filter_filter, Bool.and_comm]

lemma SameBut.set (h : SameBut hidden env₁ env₂) (hn : name ≠ hidden) (value : Bytes) :
    SameBut hidden (env₁.set name value) (env₂.set name value) := by
  unfold SameBut
  rw [unset_set_of_ne env₁ value hn, unset_set_of_ne env₂ value hn, h]

/-- A reference by `name` comes upon the records of `hidden`, or reaches into their values. -/
def Reaches (name hidden : String) : Prop :=
  Utf8.encode hidden ++ [equals] <+: Utf8.encode name ++ [equals]

instance (name hidden : String) : Decidable (Reaches name hidden) :=
  inferInstanceAs (Decidable (_ <+: _))

lemma reaches_of_isPrefix (hplain : equals ∉ Utf8.encode hidden) {value : Bytes}
    (h : Utf8.encode name ++ [equals] <+: record (hidden, value)) : Reaches name hidden := by
  have hrecord : Utf8.encode hidden ++ [equals] <+: record (hidden, value) :=
    ⟨value, by simp [record]⟩
  rcases List.prefix_or_prefix_of_prefix hrecord h with hreach | hback
  · exact hreach
  · rcases List.prefix_concat_iff.mp hback with heq | hinside
    · unfold Reaches
      rw [heq]
    · have hmem : equals ∈ Utf8.encode hidden := hinside.subset (by simp)
      exact absurd hmem hplain

lemma reference?_unset (env : Environment) (hplain : equals ∉ Utf8.encode hidden)
    (hn : ¬Reaches name hidden) : (env.unset hidden).reference? name = env.reference? name := by
  have hfind : (env.entries.filter (·.1 ≠ hidden)).find?
        (fun entry => (Utf8.encode name ++ [equals]).isPrefixOf (record entry)) =
      env.entries.find? fun entry => (Utf8.encode name ++ [equals]).isPrefixOf (record entry) := by
    rw [List.find?_filter]
    congr 1
    funext entry
    obtain ⟨holder, value⟩ := entry
    by_cases hv : holder = hidden
    · subst hv
      have hmiss : (Utf8.encode name ++ [equals]).isPrefixOf (record (holder, value)) = false := by
        rw [← Bool.not_eq_true, List.isPrefixOf_iff_prefix]
        exact fun h => hn (reaches_of_isPrefix hplain h)
      simp only [hmiss, Bool.false_eq_true, and_false, decide_false]
    · simp only [ne_eq, hv, not_false_eq_true, decide_true, true_and, Bool.decide_eq_true]
  simp only [reference?, unset, hfind]

lemma SameBut.reference? (h : SameBut hidden env₁ env₂) (hplain : equals ∉ Utf8.encode hidden)
    (hn : ¬Reaches name hidden) : env₁.reference? name = env₂.reference? name := by
  rw [← reference?_unset env₁ hplain hn, ← reference?_unset env₂ hplain hn, h]

end Environment

namespace EnvironmentFile

open Environment (SameBut)

def Assignment.RefersTo (a : Assignment) (hidden : String) : Prop :=
  ∃ name, .reference name ∈ a.value ∧ Environment.Reaches name hidden

variable {hidden : String} {a : Assignment} {env₁ env₂ filled₁ filled₂ : Environment}

lemma expand_eq (h : SameBut hidden env₁ env₂)
    (hplain : Environment.equals ∉ Utf8.encode hidden) (ha : ¬a.RefersTo hidden) :
    Value.expand env₁ a.value = Value.expand env₂ a.value := by
  have hpiece : ∀ piece ∈ a.value, piece.expand env₁ = piece.expand env₂ := by
    intro piece hmem
    cases piece with
    | char c => rfl
    | reference name =>
      have hname : ¬Environment.Reaches name hidden := fun hr => ha ⟨name, hmem, hr⟩
      simp only [Piece.expand, h.reference? hplain hname]
  unfold Value.expand
  rw [List.flatMap_congr hpiece]

lemma fill?_eq_some {env filled : Environment} (h : a.fill? env = some filled) :
    filled = env ∨ ∃ value, filled = env.set a.name value := by
  unfold Assignment.fill? at h
  split at h
  · exact .inl (Option.some.inj h).symm
  · dsimp only at h
    split at h
    · cases h
    · exact .inr ⟨_, (Option.some.inj h).symm⟩

lemma unset_of_fill? {env filled : Environment} (h : a.fill? env = some filled) :
    filled.unset a.name = env.unset a.name := by
  rcases fill?_eq_some h with rfl | ⟨value, rfl⟩
  · rfl
  · exact env.unset_set_self value

lemma sameBut_fill? (h : SameBut hidden env₁ env₂)
    (hplain : Environment.equals ∉ Utf8.encode hidden) (ha : ¬a.RefersTo hidden)
    (h₁ : a.fill? env₁ = some filled₁) (h₂ : a.fill? env₂ = some filled₂) :
    SameBut hidden filled₁ filled₂ := by
  by_cases hn : a.name = hidden
  · -- the variable itself may have a gap in one of the environments only
    subst hn
    unfold SameBut
    rw [unset_of_fill? h₁, unset_of_fill? h₂, h]
  · have htext : env₁.text? a.name = env₂.text? a.name := by
      rw [Environment.text?, Environment.text?, h.get? hn]
    unfold Assignment.fill? at h₁ h₂
    rw [← htext, ← expand_eq h hplain ha] at h₂
    split at h₁
    · next hset =>
      rw [if_pos hset] at h₂
      cases h₁
      cases h₂
      exact h
    · next hunset =>
      rw [if_neg hunset] at h₂
      dsimp only at h₁ h₂
      split at h₁
      · cases h₁
      · next hclean =>
        rw [if_neg hclean] at h₂
        cases h₁
        cases h₂
        exact h.set hn _

lemma sameBut_foldlM {as : List Assignment} (h : SameBut hidden env₁ env₂)
    (hplain : Environment.equals ∉ Utf8.encode hidden) (has : ∀ a ∈ as, ¬a.RefersTo hidden)
    (h₁ : as.foldlM Assignment.fill? env₁ = some filled₁)
    (h₂ : as.foldlM Assignment.fill? env₂ = some filled₂) : SameBut hidden filled₁ filled₂ := by
  induction as generalizing env₁ env₂ with
  | nil =>
    cases h₁
    cases h₂
    exact h
  | cons a rest ih =>
    rw [List.foldlM_cons] at h₁ h₂
    obtain ⟨next₁, hn₁, hr₁⟩ := Option.bind_eq_some_iff.mp h₁
    obtain ⟨next₂, hn₂, hr₂⟩ := Option.bind_eq_some_iff.mp h₂
    have hnext := sameBut_fill? h hplain (has a (by simp)) hn₁ hn₂
    exact ih hnext (fun b hb => has b (List.mem_cons_of_mem a hb)) hr₁ hr₂

def inForce (host : Host Id) : List Assignment :=
  match find host with
  | none => []
  | some file =>
    match host.read file with
    | .ok content => assignments content
    | .error _ => []

lemma load?_eq (host : Host Id) (env : Environment) :
    load? host env = (inForce host).foldlM Assignment.fill? env := by
  unfold load? inForce
  change (match find host with
    | none => some env
    | some file =>
      match host.read file with
      | .ok content => fill? env content
      | .error _ => some env) = _
  cases find host with
  | none => rfl
  | some file =>
    dsimp only
    cases host.read file <;> rfl

end EnvironmentFile

end Locator
