import Locator.Proofs.CommandLine.Words
import Mathlib.Data.List.Basic

namespace Locator.CommandLine

lemma eq_of_append_equals {a b s t : Bytes} (ha : equals ∉ a) (hb : equals ∉ b)
    (h : a ++ equals :: s = b ++ equals :: t) : a = b := by
  have hsplit := congrArg (fun raw => (splitValue raw).1) h
  rwa [splitValue_of_attached ha, splitValue_of_attached hb] at hsplit

namespace Opt

def mention? (o : Opt) (word : Bytes) (rest : List Bytes) : Option Bytes :=
  if word = o.word then
    if o = .trusted then some (Utf8.encode "true") else rest.head?
  else if o.word ++ [equals] <+: word then some (word.drop (o.word.length + 1))
  else none

def mentions (o : Opt) : List Bytes → List Bytes
  | [] => []
  | word :: rest => (o.mention? word rest).toList ++ o.mentions rest

lemma equals_notMem_name (o : Opt) : equals ∉ Utf8.encode o.name := by
  cases o <;> decide

lemma encode_name_inj {a b : Opt} : Utf8.encode a.name = Utf8.encode b.name ↔ a = b := by
  cases a <;> cases b <;> decide

variable (o : Opt) {name word : Bytes} (rest : List Bytes)

lemma mention?_of_short (h : ¬[hyphen, hyphen] <+: word) : o.mention? word rest = none := by
  have hword : word ≠ o.word := by
    rintro rfl
    exact h ⟨Utf8.encode o.name, rfl⟩
  have hattached : ¬o.word ++ [equals] <+: word := by
    intro hprefix
    exact h (.trans ⟨Utf8.encode o.name ++ [equals], rfl⟩ hprefix)
  rw [mention?, if_neg hword, if_neg hattached]

lemma mention?_separator : o.mention? [hyphen, hyphen] rest = none := by
  cases o <;> rfl

lemma mention?_bare (hname : equals ∉ name) :
    o.mention? (hyphen :: hyphen :: name) rest =
      if name = Utf8.encode o.name then
        if o = .trusted then some (Utf8.encode "true") else rest.head?
      else none := by
  have hattached : ¬o.word ++ [equals] <+: hyphen :: hyphen :: name := by
    intro hprefix
    have hmem : equals ∈ hyphen :: hyphen :: name := hprefix.subset (by simp)
    simp only [List.mem_cons, hname, or_false] at hmem
    exact absurd hmem (by decide)
  rw [mention?, if_neg hattached]
  simp only [word, List.cons.injEq, true_and]

lemma mention?_attached (hname : equals ∉ name) (value : Bytes) :
    o.mention? (hyphen :: hyphen :: (name ++ equals :: value)) rest =
      if name = Utf8.encode o.name then some value else none := by
  have hbare : hyphen :: hyphen :: (name ++ equals :: value) ≠ o.word := by
    intro h
    have hmem : equals ∈ o.word := by
      rw [← h]
      simp
    simp only [word, List.mem_cons, o.equals_notMem_name, or_false] at hmem
    exact absurd hmem (by decide)
  rw [mention?, if_neg hbare]
  by_cases h : name = Utf8.encode o.name
  · subst h
    have hattached : o.word ++ [equals] <+:
        hyphen :: hyphen :: (Utf8.encode o.name ++ equals :: value) := ⟨value, by simp [word]⟩
    rw [if_pos hattached, if_pos rfl]
    simp [word]
  · have hattached : ¬o.word ++ [equals] <+: hyphen :: hyphen :: (name ++ equals :: value) := by
      rintro ⟨tail, htail⟩
      have hsplit : Utf8.encode o.name ++ equals :: tail = name ++ equals :: value := by
        simpa [word] using htail
      exact h (eq_of_append_equals o.equals_notMem_name hname hsplit).symm
    rw [if_neg hattached, if_neg h]

end Opt

/-- The value of an option as it is written: what the words say, the last of them if there are
several, or else what its variable holds. -/
def sourced (env : Environment) (words : List Bytes) (o : Opt) : Option Bytes :=
  (o.mentions words).getLast?.or (o.standIn?.bind env.get?)

end Locator.CommandLine
