import BrokerWiring.Json.Basic
import BrokerWiring.Json.Fault

/-!
# Reading numbers

The digits of a number are collected into a significand of 64 bits. A digit that no longer fits and
all digits behind it are dropped; those before the point still count as powers of ten. A number
without point and exponent whose digits all fit is an integer, if 64 bits hold it with its sign;
every other number is a floating-point one.
-/

namespace BrokerWiring.Json

/-- A flaw and the number of bytes that were not yet read or looked at when it was found. -/
structure Failure where
  flaw : Flaw
  left : Nat
  deriving Repr, DecidableEq

/-- The value of a decimal digit. -/
def digit? (b : UInt8) : Option Nat :=
  if 48 ≤ b ∧ b ≤ 57 then some (b.toNat - 48) else none

/-- The greatest significand. -/
def greatestSignificand : Nat := UInt64.size - 1

/-- Takes digits into `significand` as long as the result fits, and counts them. -/
def takeDigits (significand count : Nat) : List UInt8 → Nat × Nat × List UInt8
  | [] => (significand, count, [])
  | b :: rest =>
    match digit? b with
    | none => (significand, count, b :: rest)
    | some d =>
      if significand * 10 + d ≤ greatestSignificand then
        takeDigits (significand * 10 + d) (count + 1) rest
      else (significand, count, b :: rest)

/-- Passes over digits and counts them. -/
def skipDigits (count : Nat) : List UInt8 → Nat × List UInt8
  | [] => (count, [])
  | b :: rest =>
    match digit? b with
    | none => (count, b :: rest)
    | some _ => skipDigits (count + 1) rest

/-- Whether an exponent starts here. -/
def startsExponent : List UInt8 → Bool
  | b :: _ => b == 0x65 || b == 0x45
  | [] => false

/-- The floating-point number with these parts, or the flaw that it is too large. -/
def realNumber (negative : Bool) (significand : Nat) (exponent : Int) (rest : List UInt8) :
    Except Failure (Number × List UInt8) :=
  match BrokerWiring.Number.Binary64.ofParts significand exponent with
  | none => .error ⟨.numberTooLarge, rest.length⟩
  | some x => .ok (.real (if negative then x.neg else x), rest)

/-- The digits of an exponent behind its first one, up to the one that makes it too large for 31
bits. -/
def takeExponent (exponent : Nat) : List UInt8 → Option Nat × List UInt8
  | [] => (some exponent, [])
  | b :: rest =>
    match digit? b with
    | none => (some exponent, b :: rest)
    | some d =>
      if exponent * 10 + d < Nat.pow 2 31 then takeExponent (exponent * 10 + d) rest
      else (none, rest)

/-- What follows the letter of an exponent. An exponent that is too large leaves a number out of
range if it is positive and the digits are not all zero; otherwise the number is zero. -/
def exponentPart (negative : Bool) (significand : Nat) (start : Int) (bytes : List UInt8) :
    Except Failure (Number × List UInt8) :=
  let (down, bytes) :=
    match bytes with
    | 0x2B :: rest => (false, rest)
    | 0x2D :: rest => (true, rest)
    | _ => (false, bytes)
  match bytes with
  | [] => .error ⟨.endInValue, 0⟩
  | b :: rest =>
    match digit? b with
    | none => .error ⟨.badNumber, rest.length⟩
    | some d =>
      match takeExponent d rest with
      | (some e, rest) =>
        realNumber negative significand (if down then start - e else start + e) rest
      | (none, rest) =>
        if significand ≠ 0 ∧ !down then .error ⟨.numberTooLarge, rest.length⟩
        else .ok (.real (.zero negative), (skipDigits 0 rest).2)

/-- What follows the point: at least one digit and perhaps an exponent. -/
def fractionPart (negative : Bool) (significand : Nat) (start : Int) (bytes : List UInt8) :
    Except Failure (Number × List UInt8) :=
  let (significand, taken, rest) := takeDigits significand 0 bytes
  let (skipped, rest) := skipDigits 0 rest
  if taken = 0 ∧ skipped = 0 then
    match bytes with
    | [] => .error ⟨.endInValue, 0⟩
    | _ :: rest => .error ⟨.badNumber, rest.length⟩
  else
    let exponent := start - taken
    match rest with
    | [] => realNumber negative significand exponent []
    | b :: behind =>
      if startsExponent rest then exponentPart negative significand exponent behind
      else realNumber negative significand exponent (b :: behind)

/-- An integer that 64 bits hold, or the floating-point number in its place. -/
def wholeNumber (negative : Bool) (significand : Nat) : Number :=
  if !negative then .natural significand
  else if 0 < significand ∧ significand ≤ Nat.pow 2 63 then .negative significand
  else
    match BrokerWiring.Number.Binary64.round true significand 1 with
    | some x => .real x
    | none => .real (.zero true)

/-- What follows the integer digits, `dropped` of which did not fit. -/
def behindInteger (negative : Bool) (significand dropped : Nat) (bytes : List UInt8) :
    Except Failure (Number × List UInt8) :=
  match bytes with
  | b :: rest =>
    if b = 0x2E then fractionPart negative significand dropped rest
    else if startsExponent bytes then exponentPart negative significand dropped rest
    else if dropped = 0 then .ok (wholeNumber negative significand, bytes)
    else realNumber negative significand dropped bytes
  | [] =>
    if dropped = 0 then .ok (wholeNumber negative significand, [])
    else realNumber negative significand dropped []

/-- A number behind its sign. A leading zero stands alone. -/
def numberBehindSign (negative : Bool) : List UInt8 → Except Failure (Number × List UInt8)
  | [] => .error ⟨.endInValue, 0⟩
  | b :: rest =>
    match digit? b with
    | none => .error ⟨.badNumber, rest.length⟩
    | some 0 =>
      match rest with
      | c :: behind =>
        if (digit? c).isSome then .error ⟨.badNumber, behind.length⟩
        else behindInteger negative 0 0 rest
      | [] => behindInteger negative 0 0 []
    | some d =>
      let (significand, _, rest) := takeDigits d 1 rest
      let (dropped, rest) := skipDigits 0 rest
      behindInteger negative significand dropped rest

end BrokerWiring.Json
