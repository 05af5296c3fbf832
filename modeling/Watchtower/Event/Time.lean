-- Points in time: their calendar date, their text and the reading of it. The text is
-- `2024-05-06T07:08:09.5Z`, in any zone when it is read and in UTC when it is written.
import Watchtower.Decimal.Basic
import Watchtower.Text.Blank

namespace Watchtower

/-- A point in time: the seconds since the beginning of 1970 in UTC, and the nanoseconds after
them. A leap second counts as a second second of its minute's last. -/
structure Timestamp where
  seconds : Int
  nanos : Nat
deriving DecidableEq, Repr

namespace Timestamp

/-! ## Calendar -/

/-- The years that can be written. -/
def minYear : Int := -262143

/-- The last year that can be written. -/
def maxYear : Int := 262142

/-- A year with a 29th of February. -/
def isLeap (year : Int) : Bool :=
  year % 4 == 0 && (year % 100 != 0 || year % 400 == 0)

/-- The days of a month. -/
def daysIn (year : Int) (month : Nat) : Nat :=
  if month == 2 then if isLeap year then 29 else 28
  else if month == 4 || month == 6 || month == 9 || month == 11 then 30
  else 31

/-- The days from the beginning of 1970 to a date. Years are counted from March, so that the
leap day is the last of its year. -/
def daysTo (year : Int) (month day : Nat) : Int :=
  let y := if month ≤ 2 then year - 1 else year
  let era := y / 400
  let yearOfEra := y - era * 400
  let dayOfYear : Int := (153 * ((month + 9) % 12) + 2) / 5 + day - 1
  era * 146097 + yearOfEra * 365 + yearOfEra / 4 - yearOfEra / 100 + dayOfYear - 719468

/-- The date that lies so many days after the beginning of 1970. -/
def dateAt (days : Int) : Int × Nat × Nat :=
  let z := days + 719468
  let era := z / 146097
  let dayOfEra := z - era * 146097
  let yearOfEra := (dayOfEra - dayOfEra / 1460 + dayOfEra / 36524 - dayOfEra / 146096) / 365
  let dayOfYear := dayOfEra - (365 * yearOfEra + yearOfEra / 4 - yearOfEra / 100)
  let m := (5 * dayOfYear + 2) / 153
  let day := dayOfYear - (153 * m + 2) / 5 + 1
  let month := if m < 10 then m + 3 else m - 9
  let year := yearOfEra + era * 400 + (if month ≤ 2 then 1 else 0)
  (year, month.toNat, day.toNat)

/-- The milliseconds since the beginning of 1970. -/
def millis (t : Timestamp) : Int :=
  t.seconds * 1000 + t.nanos / 1000000

/-! ## Text -/

/-- A number with at least `width` digits. -/
def padded (width n : Nat) : String :=
  String.ofList (Decimal.paddedDigits width n)

/-- The text of a year. Outside of four digits it has a sign. -/
def yearText (year : Int) : String :=
  if year < 0 then "-" ++ padded 4 year.natAbs
  else if year > 9999 then "+" ++ padded 4 year.natAbs
  else padded 4 year.natAbs

/-- The fraction of a second, with three, six or nine digits, or none. -/
def fractionText (nanos : Nat) : String :=
  if nanos = 0 then ""
  else if nanos % 1000000 = 0 then "." ++ padded 3 (nanos / 1000000)
  else if nanos % 1000 = 0 then "." ++ padded 6 (nanos / 1000)
  else "." ++ padded 9 nanos

/-- The text of a point in time, in UTC. -/
def text (t : Timestamp) : String :=
  let (year, month, day) := dateAt (t.seconds / 86400)
  let ofDay := (t.seconds % 86400).toNat
  let leap := t.nanos / 1000000000
  yearText year ++ "-" ++ padded 2 month ++ "-" ++ padded 2 day ++ "T"
    ++ padded 2 (ofDay / 3600) ++ ":" ++ padded 2 (ofDay / 60 % 60) ++ ":"
    ++ padded 2 (ofDay % 60 + leap) ++ fractionText (t.nanos % 1000000000) ++ "Z"

/-! ## Reading -/

/-- A reader takes what it reads from the front of a list. -/
abbrev Reader (α : Type) := StateT (List Char) Option α

/-- Skips blanks. -/
def skipBlanks : Reader Unit := modify (·.dropWhile Text.isBlank)

/-- Reads one character that `p` picks. -/
def take (p : Char → Bool) : Reader Char := do
  match ← get with
  | c :: cs => if p c then set cs; return c else failure
  | [] => failure

/-- Reads digits, at least one and at most `most`, and tells how many there were. -/
def digits (most : Nat) : Reader (Nat × Nat) := do
  let read := ((← get).take most).takeWhile Char.isDigit
  if read.isEmpty then failure
  modify (·.drop read.length)
  return (read.foldl (fun n c => n * 10 + (c.toNat - '0'.toNat)) 0, read.length)

/-- Reads a number of one or two digits in a range, behind blanks. -/
def small (low high : Nat) : Reader Nat := do
  skipBlanks
  let (n, _) ← digits 2
  if low ≤ n ∧ n ≤ high then return n else failure

/-- Reads a separator behind blanks. -/
def separator (c : Char) : Reader Unit := do
  skipBlanks
  let _ ← take (· == c)

/-- Reads a year: up to four digits, or any number of digits behind a sign. -/
def year : Reader Int := do
  skipBlanks
  let text ← get
  match text with
  | '-' :: cs => set cs; return -(← digits cs.length).1
  | '+' :: cs => set cs; return (← digits cs.length).1
  | _ => return (← digits 4).1

/-- Reads the fraction of a second, if there is one, as nanoseconds. Digits beyond the ninth
do not count. -/
def fraction : Reader Nat := do
  match ← get with
  | '.' :: cs =>
    set cs
    let (n, count) ← digits 9
    modify (·.dropWhile Char.isDigit)
    return n * Nat.pow 10 (9 - count)
  | _ => return 0

/-- Reads exactly two digits. -/
def twoDigits : Reader Nat := do
  let a ← take Char.isDigit
  let b ← take Char.isDigit
  return (a.toNat - '0'.toNat) * 10 + (b.toNat - '0'.toNat)

/-- Reads a zone as the seconds that it is ahead of UTC. -/
def zone : Reader Int := do
  skipBlanks
  let text ← get
  match text with
  | a :: b :: c :: rest =>
    if a.toUpper == 'U' && b.toUpper == 'T' && c.toUpper == 'C' then set rest; return 0
  | _ => pure ()
  match text with
  | 'Z' :: rest => set rest; return 0
  | 'z' :: rest => set rest; return 0
  | sign :: rest =>
    if sign != '+' && sign != '-' && sign.toNat != 0x2212 then failure
    set rest
    let hours ← twoDigits
    modify (·.dropWhile fun c => c == ':' || Text.isBlank c)
    let minutes ← twoDigits
    if minutes > 59 ∨ hours > 23 then failure
    let ahead : Int := hours * 3600 + minutes * 60
    return if sign == '+' then ahead else -ahead
  | [] => failure

/-- Reads a point in time: a date, a `T` or a blank, a time of day and a zone. Blanks may stand
around the numbers. -/
def reader : Reader Timestamp := do
  let year ← year
  separator '-'
  let month ← small 1 12
  separator '-'
  let day ← small 1 31
  let _ ← take fun c => c == 't' || c == 'T' || c == ' '
  let hour ← small 0 23
  separator ':'
  let minute ← small 0 59
  separator ':'
  let second ← small 0 60
  let nanos ← fraction
  let ahead ← zone
  skipBlanks
  if !(← get).isEmpty then failure
  if year < minYear ∨ maxYear < year ∨ daysIn year month < day then failure
  let ofDay := hour * 3600 + minute * 60 + min second 59
  return ⟨daysTo year month day * 86400 + ofDay - ahead,
    nanos + if second = 60 then 1000000000 else 0⟩

/-- Reads a point in time. -/
def ofText? (s : String) : Option Timestamp :=
  (reader.run s.toList).map (·.1)

end Timestamp

end Watchtower
