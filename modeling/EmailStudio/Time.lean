import EmailStudio.Number.Decimal

/-!
# Times

Times are counted in microseconds from the beginning of the year 2001.
-/

namespace EmailStudio

/-- A point in time, in microseconds since the beginning of 2001. -/
structure Time where
  microseconds : Int
deriving DecidableEq, Repr

/-- A day of the calendar. -/
structure Date where
  year : Int
  month : Nat
  day : Nat
deriving DecidableEq, Repr

namespace Date

/-- The day that lies a number of days after the first of January 2001. Days are counted in years
that begin in March, so that the leap day comes last; 730791 days lie between the first of March of
the year zero and the beginning of 2001. -/
def ofDays (days : Int) : Date :=
  let n := days + 730791
  let era := Int.fdiv n 146097
  let dayOfEra := (n - era * 146097).toNat
  let yearOfEra :=
    (dayOfEra - dayOfEra / 1460 + dayOfEra / 36524 - dayOfEra / 146096) / 365
  let dayOfYear := dayOfEra - (365 * yearOfEra + yearOfEra / 4 - yearOfEra / 100)
  let monthFromMarch := (5 * dayOfYear + 2) / 153
  let month := if monthFromMarch < 10 then monthFromMarch + 3 else monthFromMarch - 9
  { year := yearOfEra + era * 400 + (if month ≤ 2 then 1 else 0)
    month := month
    day := dayOfYear - (153 * monthFromMarch + 2) / 5 + 1 }

end Date

namespace Time

def ofSeconds (seconds : Int) : Time :=
  ⟨seconds * 1000000⟩

def microsecondsOfDay : Int := 86400 * 1000000

def date (t : Time) : Date :=
  Date.ofDays (Int.fdiv t.microseconds microsecondsOfDay)

/-- The microseconds since midnight. -/
def sinceMidnight (t : Time) : Nat :=
  (Int.fmod t.microseconds microsecondsOfDay).toNat

def digits (width : Nat) (n : Int) : String :=
  padZeros width (toString n)

/-- Year and month, as directories are named. -/
def yearAndMonth (t : Time) : String :=
  digits 4 t.date.year ++ "/" ++ digits 2 t.date.month

/-- Date and time of day; fractions of a second only when there are any. -/
def text (t : Time) : String :=
  let us := t.sinceMidnight
  let seconds := us / 1000000
  digits 4 t.date.year ++ "-" ++ digits 2 t.date.month ++ "-" ++ digits 2 t.date.day ++ "T"
    ++ digits 2 (seconds / 3600 : Nat) ++ ":" ++ digits 2 (seconds / 60 % 60 : Nat) ++ ":"
    ++ digits 2 (seconds % 60 : Nat)
    ++ (if us % 1000000 = 0 then "" else "." ++ digits 6 (us % 1000000 : Nat))

end Time

end EmailStudio
