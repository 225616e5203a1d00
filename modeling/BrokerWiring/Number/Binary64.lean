/-!
# Binary floating-point numbers of double precision

Finite numbers with 53 significant bits, held as an exact sign, mantissa and exponent, so that
every operation is integer arithmetic with one rounding at its end. `round` is that rounding: to
the nearest number, and of two equally near ones to the one with the even mantissa. An operation
whose result is too large for the format has none.
-/

namespace BrokerWiring.Number

/-- `(-1)^negative · mantissa · 2^exponent`, with a mantissa below `2^53` and an exponent of at
least -1074. Unless the exponent is the least, the mantissa is at least `2^52` or zero. -/
structure Binary64 where
  negative : Bool
  mantissa : Nat
  exponent : Int
  deriving Repr, DecidableEq

namespace Binary64

/-- The least exponent of the format. -/
def leastExponent : Int := -1074

/-- The greatest exponent of the format. -/
def greatestExponent : Int := 971

/-- Zero of either sign. -/
def zero (negative : Bool) : Binary64 := ⟨negative, 0, leastExponent⟩

/-- The number with its sign turned. -/
def neg (x : Binary64) : Binary64 := { x with negative := !x.negative }

/-- The quotient `num / den` to the nearest integer, a half going to the even neighbour. -/
def nearest (num den : Nat) : Nat :=
  let q := num / den
  let r := num % den
  if 2 * r < den then q
  else if den < 2 * r then q + 1
  else if q % 2 = 0 then q else q + 1

/-- `num / den / 2^exponent` to the nearest integer. -/
def scaled (num den : Nat) (exponent : Int) : Nat :=
  if exponent < 0 then nearest (num * Nat.pow 2 exponent.natAbs) den
  else nearest num (den * Nat.pow 2 exponent.natAbs)

/-- The exponent at which the positive quotient `num / den` has a mantissa of 53 bits, or the least
one if that lies below it. -/
def fittingExponent (num den : Nat) : Int :=
  let guess : Int := (Nat.log2 num : Int) - (Nat.log2 den : Int) - 52
  let floor :=
    if guess < 0 then num * Nat.pow 2 guess.natAbs / den else num / (den * Nat.pow 2 guess.natAbs)
  let fitting := if floor < Nat.pow 2 52 then guess - 1 else guess
  max fitting leastExponent

/-- The number nearest to `num / den`; none if that is too large for the format. -/
def round (negative : Bool) (num den : Nat) : Option Binary64 :=
  if num = 0 then some (zero negative)
  else
    let exponent := fittingExponent num den
    let mantissa := scaled num den exponent
    let result : Binary64 :=
      if mantissa = Nat.pow 2 53 then ⟨negative, Nat.pow 2 52, exponent + 1⟩
      else ⟨negative, mantissa, exponent⟩
    if greatestExponent < result.exponent then none else some result

/-- The magnitude as a quotient of natural numbers. -/
def magnitude (x : Binary64) : Nat × Nat :=
  if x.exponent < 0 then (x.mantissa, Nat.pow 2 x.exponent.natAbs)
  else (x.mantissa * Nat.pow 2 x.exponent.natAbs, 1)

/-- The rounded product of `x` and the positive quotient `num / den`. -/
def scale (x : Binary64) (num den : Nat) : Option Binary64 :=
  let (a, b) := x.magnitude
  round x.negative (a * num) (b * den)

/-- The number nearest to `10^k`, as a quotient. -/
def powerOfTen (k : Nat) : Nat × Nat :=
  match round false (Nat.pow 10 k) 1 with
  | some p => p.magnitude
  | none => (Nat.pow 10 k, 1)

/-- The greatest power of ten that the format holds is `10^308`. -/
def greatestPower : Nat := 308

/-- `significand · 10^exponent` with one rounding for the significand and one for each power of ten
that is multiplied or divided by. A power above the greatest one is taken in steps, so a small
number may be one unit in the last place away from the nearest; a large one is out of range. -/
def ofParts (significand : Nat) (exponent : Int) : Option Binary64 :=
  match round false significand 1 with
  | none => none
  | some x =>
    if exponent.natAbs ≤ greatestPower then
      let (num, den) := powerOfTen exponent.natAbs
      if exponent < 0 then x.scale den num else x.scale num den
    else if x.mantissa = 0 then some x
    else if 0 ≤ exponent then none
    else lowered x (exponent.natAbs / greatestPower) (exponent.natAbs % greatestPower)
where
  /-- Divides by the greatest power `steps` times, or until nothing is left, then by `10^last`. -/
  lowered (x : Binary64) (steps last : Nat) : Option Binary64 :=
    match steps with
    | 0 =>
      let (num, den) := powerOfTen last
      x.scale den num
    | steps + 1 =>
      if x.mantissa = 0 then some x
      else
        let (num, den) := powerOfTen greatestPower
        match x.scale den num with
        | none => none
        | some y => lowered y steps last

end Binary64

end BrokerWiring.Number
