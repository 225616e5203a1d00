import BrokerWiring.Asn1.Ber

/-!
# Points in time

Certificates hold when their validity begins and ends. A point in time is text of digits, with a
year of two or of four digits, and it has to be a date of the calendar. Only whether it is one
matters here.
-/

namespace BrokerWiring.Asn1.Time

/-! ## Digits -/

/-- The number that two digits at the front spell. -/
def two? : List UInt8 → Option (Nat × List UInt8)
  | a :: b :: rest =>
    if 48 ≤ a ∧ a ≤ 57 ∧ 48 ≤ b ∧ b ≤ 57 then
      some ((a.toNat - 48) * 10 + (b.toNat - 48), rest)
    else none
  | _ => none

/-- The number that two digits at the front spell; it must not be above a bound. -/
def below? (bound : Nat) (text : List UInt8) : Option (Nat × List UInt8) :=
  match two? text with
  | some (n, rest) => if n ≤ bound then some (n, rest) else none
  | none => none

/-- What follows up to three digits at the front. -/
def passFraction (text : List UInt8) : List UInt8 :=
  text.drop ((text.take 3).takeWhile fun b => 48 ≤ b && b ≤ 57).length

/-! ## The calendar -/

/-- Whether a year has a day more. -/
def isLeap (year : Nat) : Bool := year % 4 = 0 && (year % 100 ≠ 0 || year % 400 = 0)

/-- The number of days of a month; a number that is no month has none. -/
def daysOf (year month : Nat) : Nat :=
  if month = 2 then if isLeap year then 29 else 28
  else if [4, 6, 9, 11].contains month then 30
  else if 1 ≤ month ∧ month ≤ 12 then 31
  else 0

/-- What follows a month and a day of a given year. -/
def passDate (year : Nat) (text : List UInt8) : Option (List UInt8) := do
  let (month, text) ← two? text
  let (day, text) ← two? text
  if 1 ≤ day ∧ day ≤ daysOf year month then some text else none

/-! ## Zones -/

/-- The letter of the zone in which clocks agree with the reckoning. -/
def zero : List UInt8 := [90]

/-- Whether text names a zone: that one, or a distance from it in hours and minutes. -/
def isZone (text : List UInt8) : Bool :=
  match text with
  | 43 :: rest | 45 :: rest =>
    match below? 25 rest with
    | some (_, rest) => (below? 59 rest).any fun (_, rest) => rest.isEmpty
    | none => false
  | _ => text = zero

/-! ## Points in time -/

/-- The year of two digits: those from fifty on belong to the century before. -/
def fullYear (n : Nat) : Nat := if 50 ≤ n then 1900 + n else 2000 + n

/-- Whether text is a point in time with a year of two digits. The seconds may be missing. -/
def isShort (text : List UInt8) : Bool :=
  text.all (fun b => 0x20 ≤ b && b < 0x80) &&
    ((do
      let (year, text) ← two? text
      let text ← passDate (fullYear year) text
      let (_, text) ← below? 23 text
      let (_, text) ← below? 59 text
      return isZone text || (below? 59 text).any fun (_, text) => isZone text) : Option Bool).any id

/-- Whether text is a point in time with a year of four digits. What comes behind the hours may be
missing, and behind a point the seconds may have up to three digits more. The zone is the one
without a distance. -/
def isLong (text : List UInt8) : Bool :=
  ((do
    let (century, text) ← two? text
    let (year, text) ← two? text
    let text ← passDate (century * 100 + year) text
    let (_, text) ← below? 23 text
    if text = zero then return true
    let (_, text) ← below? 59 text
    if text = zero then return true
    let (_, text) ← below? 59 text
    if text = zero then return true
    match text with
    | 46 :: text => return decide (passFraction text = zero)
    | _ => none) : Option Bool).any id

/-- What follows a point in time at the front. -/
def pass (bytes : List UInt8) : Option (List UInt8) :=
  match Ber.element bytes with
  | some (found, rest) =>
    if found.header.number = Ber.shortTimeNumber ∧ isShort found.content then some rest
    else if found.header.number = Ber.longTimeNumber ∧ isLong found.content then some rest
    else none
  | none => none

end BrokerWiring.Asn1.Time
