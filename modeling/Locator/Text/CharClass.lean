/-! Sets of characters, given by closed intervals of code points in increasing order. -/

namespace Locator

structure CharClass where
  intervals : List (Nat × Nat)

namespace CharClass

def contains (k : CharClass) (c : Char) : Bool :=
  k.intervals.any fun (lo, hi) => lo ≤ c.toNat && c.toNat ≤ hi

theorem contains_iff (k : CharClass) (c : Char) :
    k.contains c = true ↔ ∃ i ∈ k.intervals, i.1 ≤ c.toNat ∧ c.toNat ≤ i.2 := by
  simp [contains]

/-- The characters that separate words: tab to carriage return, the space, the next-line mark and
the blanks and separators of the other scripts. -/
def blank : CharClass :=
  ⟨[(9, 13), (32, 32), (133, 133), (160, 160), (5760, 5760), (8192, 8202), (8232, 8233),
    (8239, 8239), (8287, 8287), (12288, 12288)]⟩

end CharClass

end Locator
