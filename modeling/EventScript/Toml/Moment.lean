import EventScript.Toml.Text
import EventScript.Toml.Value

/-!
# Dates and times in TOML

A date, a time, or both, the last with or without an offset from universal time. Reading checks the
calendar and gives the normal form: `T` between date and time, `Z` for the offset zero where it is
so written, at most nine digits after the second and none of them a trailing zero.
-/
namespace EventScript.Toml

/-- A number of exactly so many decimal digits. -/
def fixedDigits : Nat → Reader (List Char)
  | 0 => return []
  | count + 1 => do
    let first ← Reader.oneOf Char.isDigit
    return first :: (← fixedDigits count)

/-- A number of two digits in an interval, with its digits. -/
def twoDigits (low high : Nat) : Reader (List Char × Nat) := do
  let digits ← fixedDigits 2
  let n ← numberOf? 10 digits
  if low ≤ n && n ≤ high then return (digits, n) else failure

/-- The days of a month in the Gregorian calendar, which is also used for years before it. -/
def daysIn (year month : Nat) : Nat :=
  match month with
  | 2 => if year % 4 = 0 && (year % 100 ≠ 0 || year % 400 = 0) then 29 else 28
  | 4 | 6 | 9 | 11 => 30
  | _ => 31

/-- A date. -/
def date : Reader (List Char) := do
  let year ← fixedDigits 4
  Reader.char '-'
  let (month, monthNumber) ← twoDigits 1 12
  Reader.char '-'
  let (day, dayNumber) ← twoDigits 1 31
  if daysIn (← numberOf? 10 year) monthNumber < dayNumber then failure
  return year ++ '-' :: month ++ '-' :: day

/-- The fraction of a second. -/
def fractionOfSecond : Reader (List Char) := do
  Reader.char '.'
  let digits ← Reader.spanSome Char.isDigit
  match ((digits.take 9).reverse.dropWhile (· == '0')).reverse with
  | [] => return []
  | digits => return '.' :: digits

/-- A time of the day. A minute may have a leap second. -/
def time : Reader (List Char) := do
  let (hour, _) ← twoDigits 0 23
  Reader.char ':'
  let (minute, _) ← twoDigits 0 59
  Reader.char ':'
  let (second, _) ← twoDigits 0 60
  let fraction ← Reader.optionally fractionOfSecond
  return hour ++ ':' :: minute ++ ':' :: second ++ fraction.getD []

/-- An offset from universal time. Of the two signs of no offset the normal form has plus. -/
def offset : Reader (List Char) := do
  match ← Reader.next with
  | 'Z' | 'z' => return ['Z']
  | '+' => return '+' :: (← hoursAndMinutes)
  | '-' => do
    let digits ← hoursAndMinutes
    return (if digits = "00:00".toList then '+' else '-') :: digits
  | _ => failure
where
  hoursAndMinutes : Reader (List Char) := do
    let (hours, _) ← twoDigits 0 23
    Reader.char ':'
    let (minutes, _) ← twoDigits 0 59
    return hours ++ ':' :: minutes

/-- The time after a date, with the offset where there is one. -/
def timeOfDate : Reader (List Char) := do
  let _ ← Reader.oneOf fun c => c == 'T' || c == 't' || c == ' '
  let time ← time
  let offset ← Reader.optionally offset
  return 'T' :: time ++ offset.getD []

/-- A date with or without a time, or a time alone. -/
def moment : Reader Value := dated <|> (.moment <$> String.ofList <$> time)
where
  dated : Reader Value := do
    let date ← date
    let rest ← Reader.optionally timeOfDate
    return .moment (String.ofList (date ++ rest.getD []))

end EventScript.Toml
