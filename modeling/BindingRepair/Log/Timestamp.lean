import BindingRepair.Text.Decimal

namespace BindingRepair.Log

structure Day where
  year : Int
  month : Nat
  day : Nat
  deriving DecidableEq, Repr

/-- The day that lies so many days after the first of January 1970. Years are taken to begin in
March, so that a leap day comes last, and are counted within eras of four hundred. -/
def Day.ofCount (count : Int) : Day :=
  let shifted := count + 719468
  let era := Int.fdiv shifted 146097
  let dayOfEra := (Int.fmod shifted 146097).toNat
  let yearOfEra := (dayOfEra - dayOfEra / 1460 + dayOfEra / 36524 - dayOfEra / 146096) / 365
  let dayOfYear := dayOfEra - (365 * yearOfEra + yearOfEra / 4 - yearOfEra / 100)
  let marchMonth := (5 * dayOfYear + 2) / 153
  let month := if marchMonth < 10 then marchMonth + 3 else marchMonth - 9
  { year := (yearOfEra : Int) + era * 400 + (if month ≤ 2 then 1 else 0)
    month
    day := dayOfYear - (153 * marchMonth + 2) / 5 + 1 }

structure YearError where
  year : Int
  deriving DecidableEq, Repr

def YearError.message (e : YearError) : String :=
  "year " ++ Text.decimal e.year ++ " is out of range"

/-- The whole number nearest to a quotient. Of two that are equally near, the even one is taken. -/
def nearest (numerator denominator : Nat) : Nat :=
  let quotient := numerator / denominator
  let rest := 2 * (numerator % denominator)
  if rest < denominator || (rest = denominator && quotient % 2 = 0) then quotient else quotient + 1

/-- The moment at which a clock stands that counts seconds in 53 binary digits, in microseconds. Up
to the year 2242 it is exact. -/
def clocked (microseconds : Int) : Int :=
  let distance := microseconds.natAbs
  let scale := 1 <<< (52 - Nat.log2 (distance / 1000000))
  if scale ≥ 1048576 then microseconds
  else microseconds.sign * nearest (nearest (distance * scale) 1000000 * 1000000) scale

/-- The moment so many microseconds after the beginning of 1970, as a clock shows it. Microseconds
are written only where there are some. -/
def timestamp (microseconds : Int) : Except YearError String :=
  let microseconds := clocked microseconds
  let seconds := Int.fdiv microseconds 1000000
  let fraction := (Int.fmod microseconds 1000000).toNat
  let secondOfDay := (Int.fmod seconds 86400).toNat
  let day := Day.ofCount (Int.fdiv seconds 86400)
  if day.year < 1 || 9999 < day.year then .error ⟨day.year⟩
  else
    let date := Text.padded 4 day.year.toNat ++ "-" ++ Text.padded 2 day.month ++ "-" ++
      Text.padded 2 day.day
    let time := Text.padded 2 (secondOfDay / 3600) ++ ":" ++
      Text.padded 2 (secondOfDay / 60 % 60) ++ ":" ++ Text.padded 2 (secondOfDay % 60)
    let rest := if fraction = 0 then "" else "." ++ Text.padded 6 fraction
    .ok (date ++ "T" ++ time ++ rest ++ "+00:00")

end BindingRepair.Log
