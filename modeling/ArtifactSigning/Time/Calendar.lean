/-!
# Calendar dates of timestamps

A timestamp counts the seconds since the start of 1970 in universal time. `isoText` writes the
instant in the extended calendar format with the offset of universal time, and `clockText` as it
stands in reports, with thousandths of a second.
-/
namespace ArtifactSigning.Time

/-- A day of the proleptic Gregorian calendar. -/
structure Date where
  year : Nat
  month : Nat
  day : Nat
  deriving DecidableEq, Repr

/-- The day that lies `days` days after 1 January 1970, but not before the year 0. Years are counted
from March, so that the leap day ends a year, in cycles of 400 years with 146097 days each. -/
def Date.ofDays (days : Int) : Date :=
  let shifted := (days + 719468).toNat
  let cycle := shifted / 146097
  let dayOfCycle := shifted % 146097
  let yearOfCycle :=
    (dayOfCycle - dayOfCycle / 1460 + dayOfCycle / 36524 - dayOfCycle / 146096) / 365
  let dayOfYear := dayOfCycle - (365 * yearOfCycle + yearOfCycle / 4 - yearOfCycle / 100)
  let march := (5 * dayOfYear + 2) / 153
  let month := if march < 10 then march + 3 else march - 9
  ⟨yearOfCycle + cycle * 400 + (if month ≤ 2 then 1 else 0), month,
    dayOfYear - (153 * march + 2) / 5 + 1⟩

/-- A number with at least `width` decimal digits. -/
def padded (width n : Nat) : String :=
  let digits := Nat.toDigits 10 n
  String.ofList (List.replicate (width - digits.length) '0' ++ digits)

/-- The time of day, where a day has the given number of seconds behind it. -/
def timeOfDay (seconds : Nat) : String :=
  s!"{padded 2 (seconds / 3600)}:{padded 2 (seconds / 60 % 60)}:{padded 2 (seconds % 60)}"

/-- The text of a timestamp, such as `2020-09-13T12:26:45+00:00`. -/
def isoText (seconds : Nat) : String :=
  let date := Date.ofDays (seconds / 86400 : Nat)
  s!"{padded 4 date.year}-{padded 2 date.month}-{padded 2 date.day}T" ++
    s!"{timeOfDay (seconds % 86400)}+00:00"

/-- The text of an instant, such as `2020-09-13 12:26:45,250`. The date and the time of day are
those of the whole second before it; the thousandths are counted from the whole second towards the
start of 1970. -/
def clockText (instant : Rat) : String :=
  let second := instant.floor
  let date := Date.ofDays (second.fdiv 86400)
  let whole := instant.num.tdiv instant.den
  let thousandths := ((instant - whole) * 1000).num.tdiv ((instant - whole) * 1000).den
  let sign := if thousandths < 0 then "-" else ""
  let width := if thousandths < 0 then 2 else 3
  s!"{date.year}-{padded 2 date.month}-{padded 2 date.day} " ++
    s!"{timeOfDay (second.fmod 86400).toNat},{sign}{padded width thousandths.natAbs}"

end ArtifactSigning.Time
