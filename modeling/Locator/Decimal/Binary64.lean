/-! Floating point with 53 significant bits, without sign: a whole number of units of `2 ^ e`. -/

namespace Locator

structure Binary64 where
  count : Nat
  unit : Int
deriving DecidableEq, Repr

namespace Binary64

def zero : Binary64 := ⟨0, -1074⟩

/-- `num / den` rounded to a whole number, a half going to the even neighbour. -/
def divRound (num den : Nat) : Nat :=
  let q := num / den
  let twice := 2 * (num % den)
  if twice < den then q
  else if den < twice then q + 1
  else q + q % 2

def inUnits (num den : Nat) (e : Int) : Nat × Nat :=
  (num * Nat.pow 2 (-e).toNat, den * Nat.pow 2 e.toNat)

def unitFor (num den : Nat) : Int :=
  let e : Int := (num.log2 : Int) - den.log2 - 52
  let (n, d) := inUnits num den e
  max (-1074) (if n / d < Nat.pow 2 52 then e - 1 else e)

def round? (num den : Nat) : Option Binary64 :=
  if num = 0 then some zero
  else
    let e := unitFor num den
    let (n, d) := inUnits num den e
    let q := divRound n d
    let r : Binary64 := if q = Nat.pow 2 53 then ⟨Nat.pow 2 52, e + 1⟩ else ⟨q, e⟩
    if 971 < r.unit then none else some r

def num (x : Binary64) : Nat := x.count * Nat.pow 2 x.unit.toNat

def den (x : Binary64) : Nat := Nat.pow 2 (-x.unit).toNat

def ofNat? (n : Nat) : Option Binary64 := round? n 1

def mul? (x y : Binary64) : Option Binary64 := round? (x.num * y.num) (x.den * y.den)

def div? (x y : Binary64) : Option Binary64 := round? (x.num * y.den) (x.den * y.num)

/-- `x` divided by ten to the `k`, at most 308 places at a time. -/
def shiftDown? (x : Binary64) (k : Nat) : Option Binary64 :=
  if x.count = 0 then some x
  else if k ≤ 308 then (round? (Nat.pow 10 k) 1).bind x.div?
  else ((round? (Nat.pow 10 308) 1).bind x.div?).bind (shiftDown? · (k - 308))
termination_by k

def ofDecimal? (significand : Nat) (e : Int) : Option Binary64 := do
  let x ← ofNat? significand
  if x.count = 0 then return x
  else if e < 0 then x.shiftDown? (-e).toNat
  else if 308 < e then none
  else (round? (Nat.pow 10 e.toNat) 1).bind x.mul?

end Binary64

end Locator
