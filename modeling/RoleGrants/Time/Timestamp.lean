import RoleGrants.Failure
import RoleGrants.Time.Calendar

/-! Timestamps: a moment in whole seconds as a text in UTC, such as `2024-01-15T08:30:00Z`. A moment
is the count of seconds since the start of 1970, and only the years one to 9999 have a text. -/

namespace RoleGrants

/-- A moment as a clock at some distance from UTC shows it. The distance is in seconds, east of UTC
if it is positive. -/
structure LocalTime where
  date : Date
  hour : Nat
  minute : Nat
  second : Nat
  microsecond : Nat
  offset : Int
  deriving DecidableEq, Inhabited

namespace LocalTime

def isValid (time : LocalTime) : Bool :=
  time.date.isValid && time.hour < 24 && time.minute < 60 && time.second < 60 &&
    time.microsecond < 1000000

def toMoment (time : LocalTime) : Int :=
  time.date.toDays * 86400 + time.hour * 3600 + time.minute * 60 + time.second - time.offset

def ofMoment (moment : Int) : LocalTime :=
  let second := (moment % 86400).toNat
  ⟨Date.ofDays (moment / 86400), second / 3600, second / 60 % 60, second % 60, 0, 0⟩

end LocalTime

namespace Timestamp

/-- A number in decimal, with zeros in front up to `width` digits. -/
def padded (width n : Nat) : String :=
  let digits := Nat.toDigits 10 n
  String.ofList (List.replicate (width - digits.length) '0' ++ digits)

def render (time : LocalTime) : String :=
  padded 4 time.date.year.toNat ++ "-" ++ padded 2 time.date.month ++ "-" ++
    padded 2 time.date.day ++ "T" ++ padded 2 time.hour ++ ":" ++ padded 2 time.minute ++ ":" ++
    padded 2 time.second ++ "Z"

def ofMoment (moment : Int) : Except Failure String :=
  let time := LocalTime.ofMoment moment
  if 1 ≤ time.date.year && time.date.year ≤ 9999 then .ok (render time)
  else .error .timeOutOfRange

/-- The text of a local time, without the part of a second that it shows. -/
def ofLocalTime (time : LocalTime) : Except Failure String :=
  ofMoment time.toMoment

end Timestamp

end RoleGrants
