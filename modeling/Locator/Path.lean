import Locator.Text.Quoted

/-! Paths are byte strings; in `components` doubled slashes and inner dots do not count. -/

namespace Locator

structure Path where
  bytes : Bytes
deriving DecidableEq, Repr

namespace Path

def slash : UInt8 := 0x2f

def dot : Bytes := [0x2e]

def dots : Bytes := [0x2e, 0x2e]

def ofString (s : String) : Path := ⟨Utf8.encode s⟩

def isAbsolute (p : Path) : Bool := p.bytes.head? == some slash

/-- `q` as seen from `p`: `q` itself when it is absolute, else both with one slash between them,
which an empty `p` and a `p` that ends in a slash do not need. -/
def join (p q : Path) : Path :=
  if q.isAbsolute then q
  else if p.bytes = [] ∨ p.bytes.getLast? = some slash then ⟨p.bytes ++ q.bytes⟩
  else ⟨p.bytes ++ slash :: q.bytes⟩

inductive Component where
  | root
  | current
  | parent
  | normal (name : Bytes)
deriving DecidableEq, Repr

def Component.bytes : Component → Bytes
  | .root => [slash]
  | .current => dot
  | .parent => dots
  | .normal name => name

/-- What a piece between slashes stands for, unless it leads a relative path. -/
def component? (piece : Bytes) : Option Component :=
  if piece = [] ∨ piece = dot then none
  else if piece = dots then some .parent
  else some (.normal piece)

def componentsOf : List Bytes → List Component
  | [] => []
  | [] :: pieces => .root :: pieces.filterMap component?
  | piece :: pieces =>
    if piece = dot then .current :: pieces.filterMap component?
    else (piece :: pieces).filterMap component?

def components (p : Path) : List Component :=
  if p.bytes = [] then [] else componentsOf (p.bytes.splitOn slash)

def parent? (p : Path) : Option Path :=
  match (p.bytes.reverse.dropWhile (· == slash)).dropWhile (· != slash) with
  | [] => if p.isAbsolute ∨ p.bytes = [] then none else some ⟨[]⟩
  | _ :: rest =>
    if p.bytes.all (· == slash) then none
    else match rest.dropWhile (· == slash) with
      | [] => some ⟨[slash]⟩
      | kept => some ⟨kept.reverse⟩

theorem length_parent?_lt {p q : Path} (h : p.parent? = some q) :
    q.bytes.length < p.bytes.length := by
  unfold parent? at h
  split at h
  · split at h
    · simp at h
    · obtain rfl := Option.some.inj h
      rename_i hp
      exact List.length_pos_iff.mpr fun h => hp (.inr h)
  · rename_i b rest hrest
    have hlen : rest.length < p.bytes.length := by
      have h₂ := (List.dropWhile_sublist (l := p.bytes.reverse) (· == slash)).length_le
      have h₁ := (List.dropWhile_sublist (l := p.bytes.reverse.dropWhile (· == slash))
        (· != slash)).length_le
      rw [hrest] at h₁
      simp only [List.length_cons, List.length_reverse] at h₁ h₂
      omega
    split at h
    · simp at h
    · rename_i hall
      split at h
      · obtain rfl := Option.some.inj h
        match hp : p.bytes with
        | [] => simp [hp] at hrest
        | [c] =>
          by_cases hc : c = slash
          · simp [hp, hc] at hall
          · simp [hp, hc] at hrest
        | _ :: _ :: _ => simp
      · rename_i kept _
        obtain rfl := Option.some.inj h
        have := (List.dropWhile_sublist (l := rest) (· == slash)).length_le
        simp only [List.length_reverse]
        omega

def ancestors (p : Path) : List Path :=
  match _h : p.parent? with
  | none => [p]
  | some q => p :: q.ancestors
termination_by p.bytes.length
decreasing_by exact length_parent?_lt _h

def display (p : Path) : String := Utf8.display p.bytes

def quoted (p : Path) : String := Quoted.ofBytes p.bytes

def inspect? : Option Path → String
  | none => "None"
  | some p => "Some(" ++ p.quoted ++ ")"

end Path

end Locator
