/-!
Moments as text, in universal time and to the second.
-/

namespace ReleaseDrift.Timestamp

/-- Year, month and day of a day that is counted from the first of January 1970. Years are taken
    to begin in March, so that a leap day is the last day of its year. -/
def date (day : Nat) : Nat × Nat × Nat :=
  let sinceMarch := day + 719468
  let era := sinceMarch / 146097
  let dayOfEra := sinceMarch % 146097
  let yearOfEra := (dayOfEra - dayOfEra / 1460 + dayOfEra / 36524 - dayOfEra / 146096) / 365
  let dayOfYear := dayOfEra - (365 * yearOfEra + yearOfEra / 4 - yearOfEra / 100)
  let monthFromMarch := (5 * dayOfYear + 2) / 153
  let dayOfMonth := dayOfYear - (153 * monthFromMarch + 2) / 5 + 1
  let year := era * 400 + yearOfEra
  if monthFromMarch < 10 then (year, monthFromMarch + 3, dayOfMonth)
  else (year + 1, monthFromMarch - 9, dayOfMonth)

def padded (width n : Nat) : String :=
  let digits := toString n
  String.ofList (List.replicate (width - digits.length) '0') ++ digits

def ofSeconds (seconds : Nat) : String :=
  let (year, month, day) := date (seconds / 86400)
  let second := seconds % 86400
  padded 4 year ++ "-" ++ padded 2 month ++ "-" ++ padded 2 day ++ "T" ++
    padded 2 (second / 3600) ++ ":" ++ padded 2 (second / 60 % 60) ++ ":" ++
    padded 2 (second % 60) ++ "Z"

end ReleaseDrift.Timestamp
