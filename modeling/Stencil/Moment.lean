import Stencil.Text.Search

/-! Moments and their ISO 8601 texts. A moment is counted in microseconds from the start of 1970
    in universal time; its date is found in the Gregorian calendar from the number of days, in
    eras of 400 years that begin in March. -/

namespace Stencil

/-- A moment with the offset of the local time in minutes. -/
structure Moment where
  micros : Int
  offset : Int := 0
  deriving DecidableEq, Repr, Inhabited

namespace Moment

/-- Full seconds from the start of 1970. -/
def seconds (m : Moment) : Int := (m.micros / 1000000)

/-- Year, month and day of a number of days from the start of 1970. -/
def date (days : Int) : Int × Int × Int :=
  let shifted := days + 719468
  let era := shifted / 146097
  let dayOfEra := shifted % 146097
  let yearOfEra := (dayOfEra - dayOfEra / 1460 + dayOfEra / 36524 - dayOfEra / 146096) / 365
  let dayOfYear := dayOfEra - (365 * yearOfEra + yearOfEra / 4 - yearOfEra / 100)
  let marchMonth := (5 * dayOfYear + 2) / 153
  let day := dayOfYear - (153 * marchMonth + 2) / 5 + 1
  let month := if marchMonth < 10 then marchMonth + 3 else marchMonth - 9
  let year := yearOfEra + era * 400 + (if month ≤ 2 then 1 else 0)
  (year, month, day)

/-- A number with at least so many digits. -/
def padded (width : Nat) (n : Int) : String :=
  let s := toString n.natAbs
  String.ofList (List.replicate (width - s.length) '0') ++ s

/-- The text of an offset from universal time. -/
def offsetText (minutes : Int) : String :=
  (if minutes < 0 then "-" else "+") ++ padded 2 (minutes.natAbs / 60 : Nat) ++ ":"
    ++ padded 2 (minutes.natAbs % 60 : Nat)

/-- The ISO 8601 text, with microseconds unless they are zero. -/
def isoText (m : Moment) : String :=
  let localMicros := m.micros + m.offset * 60000000
  let secs := localMicros / 1000000
  let part := localMicros % 1000000
  let (year, month, day) := date (secs / 86400)
  let time := secs % 86400
  padded 4 year ++ "-" ++ padded 2 month ++ "-" ++ padded 2 day ++ "T"
    ++ padded 2 (time / 3600) ++ ":" ++ padded 2 (time / 60 % 60) ++ ":" ++ padded 2 (time % 60)
    ++ (if part = 0 then "" else "." ++ padded 6 part) ++ offsetText m.offset

end Moment

end Stencil
