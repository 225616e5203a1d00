import BrokerWiring.Number.Binary64

/-!
# Shortest decimal digits

Every finite binary number owns an interval of reals that round to it; the ends belong to it
exactly when its mantissa is even. `shortest` gives the decimal with the fewest digits in that
interval, and among those the one nearest to the number. For each count of digits it is enough to
look at the number's two neighbours on the grid of decimals with that many digits: if the interval
holds a point of the grid, it holds one of them.
-/

namespace BrokerWiring.Number

/-- `0.d₁d₂… · 10^(exponent + 1)`: the digits and the power of ten of the first one. -/
structure Decimal where
  digits : List Nat
  exponent : Int
  deriving Repr, DecidableEq

/-- The decimal digits of a number, the first one first; none for zero. -/
def digitsOf (n : Nat) : List Nat :=
  if n = 0 then [] else digitsOf (n / 10) ++ [n % 10]
termination_by n
decreasing_by omega

/-- The digits without the zeros at their end. -/
def dropTrailingZeros (digits : List Nat) : List Nat :=
  (digits.reverse.dropWhile (· == 0)).reverse

namespace Binary64

/-- The interval that rounds to `x`, over a common denominator: lower end, `x` and upper end as
numerators, then the denominator. Below a power of two the gap is half as wide, save at the least
exponent. -/
def interval (x : Binary64) : Nat × Nat × Nat × Nat :=
  let (num, den) :=
    if x.exponent < 0 then (4 * x.mantissa, 4 * Nat.pow 2 x.exponent.natAbs)
    else (4 * x.mantissa * Nat.pow 2 x.exponent.natAbs, 4)
  let unit := if x.exponent < 0 then 1 else Nat.pow 2 x.exponent.natAbs
  let below := if x.mantissa = Nat.pow 2 52 ∧ leastExponent < x.exponent then unit else 2 * unit
  (num - below, num, num + 2 * unit, den)

/-- The power of ten of the first digit of the positive quotient `num / den`, searched upwards from
`start` in at most `fuel` steps. -/
def leadingPower (num den : Nat) : Nat → Int → Int
  | 0, k => k
  | fuel + 1, k =>
    let next := k + 1
    let reached :=
      if next < 0 then den ≤ num * Nat.pow 10 next.natAbs
      else den * Nat.pow 10 next.natAbs ≤ num
    if reached then leadingPower num den fuel next else k

/-- The decimal with `count` digits that stands for `x`, if one lies in its interval. -/
def withDigits? (x : Binary64) (leading : Int) (count : Nat) : Option Decimal :=
  let (low, mid, high, den) := x.interval
  let place : Int := leading - (count : Int) + 1
  -- everything over `den`, in units of `10^place`
  let up := if place < 0 then Nat.pow 10 place.natAbs else 1
  let unit := den * (if place < 0 then 1 else Nat.pow 10 place.natAbs)
  let (low, mid, high) := (low * up, mid * up, high * up)
  let floor := mid / unit
  let inside (n : Nat) : Bool :=
    if x.mantissa % 2 = 0 then low ≤ n * unit && n * unit ≤ high
    else low < n * unit && n * unit < high
  let pick (n : Nat) : Option Decimal :=
    let all := digitsOf n
    some ⟨dropTrailingZeros all, place + (all.length : Int) - 1⟩
  match inside floor, inside (floor + 1) with
  | true, true =>
    let down := mid - floor * unit
    let up := (floor + 1) * unit - mid
    if down < up then pick floor
    else if up < down then pick (floor + 1)
    else if floor % 2 = 0 then pick floor else pick (floor + 1)
  | true, false => pick floor
  | false, true => pick (floor + 1)
  | false, false => none

/-- The fewest digits that read back as `x`, and the nearest such decimal. Seventeen digits always
suffice. Zero has no digits. -/
def shortest (x : Binary64) : Decimal :=
  if x.mantissa = 0 then ⟨[], 0⟩
  else
    let (num, den) := x.magnitude
    let leading := leadingPower num den 640 (-325)
    ((List.range 17).findSome? fun n => x.withDigits? leading (n + 1)).getD ⟨[], 0⟩

end Binary64

end BrokerWiring.Number
