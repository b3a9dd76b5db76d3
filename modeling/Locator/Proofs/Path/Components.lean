import Locator.Platform
import Mathlib.Tactic.Lemma

namespace Locator

namespace Path

structure IsName (name : Bytes) : Prop where
  ne_nil : name ≠ []
  ne_dot : name ≠ dot
  ne_dots : name ≠ dots
  slash_notMem : slash ∉ name

lemma IsName.component? {name : Bytes} (h : IsName name) :
    Path.component? name = some (.normal name) := by
  simp [Path.component?, h.ne_nil, h.ne_dot, h.ne_dots]

lemma IsName.not_isAbsolute {name : Bytes} (h : IsName name) :
    (Path.mk name).isAbsolute = false := by
  cases name with
  | nil => rfl
  | cons b rest =>
    have hb : slash ≠ b := fun hb => h.slash_notMem (by simp [hb])
    simp [isAbsolute, Ne.symm hb]

lemma isAbsolute_join (p q : Path) : (p.join q).isAbsolute = (p.isAbsolute || q.isAbsolute) := by
  cases hq : q.isAbsolute with
  | true => simp [join, hq]
  | false =>
    obtain ⟨bytes⟩ := p
    cases bytes with
    | nil => simpa [join, hq, isAbsolute] using hq
    | cons b rest =>
      rw [join, hq, Bool.or_false]
      split
      · contradiction
      · split <;> rfl

def leading (piece : Bytes) : List Component :=
  if piece = [] then [.root] else if piece = dot then [.current] else (component? piece).toList

lemma componentsOf_cons (piece : Bytes) (pieces : List Bytes) :
    componentsOf (piece :: pieces) = leading piece ++ pieces.filterMap component? := by
  cases piece with
  | nil => rfl
  | cons b rest =>
    by_cases hdot : b :: rest = dot
    · have hne : dot ≠ [] := by decide
      simp [componentsOf, leading, hdot, hne]
    · cases hc : component? (b :: rest) <;>
        simp [componentsOf, leading, hdot, hc]

lemma componentsOf_append {pieces : List Bytes} (h : pieces ≠ []) (more : List Bytes) :
    componentsOf (pieces ++ more) = componentsOf pieces ++ more.filterMap component? := by
  cases pieces with
  | nil => exact absurd rfl h
  | cons piece pieces => simp [componentsOf_cons]

lemma components_append_slash (xs : Bytes) {name : Bytes} (h : IsName name) :
    (Path.mk (xs ++ slash :: name)).components =
      componentsOf (xs.splitOn slash) ++ [.normal name] := by
  have hpieces : (xs ++ slash :: name).splitOn slash = xs.splitOn slash ++ [name] := by
    rw [List.splitOn_append_cons_self, List.splitOn_eq_singleton h.slash_notMem]
  simp [components, hpieces, componentsOf_append (List.splitOn_ne_nil slash xs), h.component?]

lemma components_join (p : Path) {name : Bytes} (h : IsName name) :
    (p.join ⟨name⟩).components = p.components ++ [.normal name] := by
  obtain ⟨xs⟩ := p
  simp only [join, h.not_isAbsolute, Bool.false_eq_true, if_false]
  by_cases hnil : xs = []
  · have hpieces := List.splitOn_eq_singleton h.slash_notMem
    simp [hnil, components, hpieces, componentsOf_cons, leading, h.ne_nil, h.ne_dot, h.component?]
  · by_cases hlast : xs.getLast? = some slash
    · obtain ⟨front, rfl⟩ := List.getLast?_eq_some_iff.mp hlast
      have hfront : (Path.mk (front ++ [slash])).components =
          componentsOf (front.splitOn slash) := by
        simp [components, List.splitOn_append_cons_self,
          componentsOf_append (List.splitOn_ne_nil slash front), component?]
      rw [if_pos (.inr hlast), hfront, List.append_assoc]
      exact components_append_slash front h
    · rw [if_neg (by simp [hnil, hlast]), components_append_slash xs h]
      simp [components, hnil]

end Path

lemma Platform.isName_binaryName (platform : Platform) :
    Path.IsName (Utf8.encode platform.binaryName) := by
  cases platform <;> exact ⟨by decide, by decide, by decide, by decide⟩

end Locator
