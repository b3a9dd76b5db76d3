import Locator.Decimal.Binary64

/-! The grids `c · 10 ^ g` are tried from the coarsest on, for the fewest digits. -/

namespace Locator.Decimal

structure Shortest where
  digits : Nat
  exponent : Int
deriving DecidableEq, Repr

/-- Whether `c · a` lies among the reals that round to `x`, when a quarter of `x`'s unit is `b`. -/
def rounds (x : Binary64) (a b c : Nat) : Bool :=
  let upper := (4 * x.count + 2) * b
  let lower := (4 * x.count - if x.count = Nat.pow 2 52 ∧ -1074 < x.unit then 1 else 2) * b
  if x.count % 2 = 0 then lower ≤ c * a && c * a ≤ upper
  else lower < c * a && c * a < upper

/-- The point of the grid `10 ^ g` that stands for `x`, if the grid has one. -/
def onGrid? (x : Binary64) (g : Int) : Option Shortest :=
  let quarter := x.unit - 2
  let a := Nat.pow 10 g.toNat * Nat.pow 2 (-quarter).toNat
  let b := Nat.pow 2 quarter.toNat * Nat.pow 10 (-g).toNat
  let value := 4 * x.count * b
  let below := value / a
  let above := below + 1
  let below? := 0 < below && rounds x a b below
  if below? && rounds x a b above then
    let toBelow := value - below * a
    let toAbove := above * a - value
    if toBelow < toAbove ∨ (toBelow = toAbove ∧ below % 2 = 0) then some ⟨below, g⟩
    else some ⟨above, g⟩
  else if below? then some ⟨below, g⟩
  else if rounds x a b above then some ⟨above, g⟩
  else none

def shortest (x : Binary64) : Shortest :=
  ((List.range 660).findSome? fun (i : Nat) => onGrid? x (310 - (i : Int))).getD ⟨0, 0⟩

def zeros (n : Int) : List Char := List.replicate n.toNat '0'

/-- Positional from `0.00001` up to sixteen places before the point, always with a digit after it;
otherwise one digit before the point and a signed exponent. -/
def Shortest.text (s : Shortest) : List Char :=
  let d := (toString s.digits).toList
  let point : Int := d.length + s.exponent
  if -4 ≤ point ∧ point ≤ 16 then
    if point ≤ 0 then '0' :: '.' :: (zeros (-point) ++ d)
    else if point < d.length then d.take point.toNat ++ '.' :: d.drop point.toNat
    else d ++ zeros (point - d.length) ++ ['.', '0']
  else
    let e := (toString (point - 1).natAbs).toList
    d.take 1 ++ (if d.length = 1 then [] else '.' :: d.drop 1) ++
      'e' :: (if point < 1 then '-' else '+') :: e

def text (negative : Bool) (x : Binary64) : String :=
  let body := if x.count = 0 then ['0', '.', '0'] else (shortest x).text
  String.ofList (if negative then '-' :: body else body)

end Locator.Decimal
