import ServiceLinker.Text.Blank
import ServiceLinker.Text.Digits
import ServiceLinker.Text.Search

/-!
# Timestamps

Moments in coordinated universal time with nanoseconds. The reader takes a date, a time and an
offset with some freedom in spacing and digits; the printer writes the one canonical form.
-/

namespace ServiceLinker

open Text (digitsValue padded)

/-- A moment in coordinated universal time. The second 60 is a leap second. -/
structure Timestamp where
  year : Int
  month : Nat
  day : Nat
  hour : Nat
  minute : Nat
  second : Nat
  nanosecond : Nat
  deriving DecidableEq, Repr

namespace Timestamp

/-! ## The calendar -/

/-- The year has a leap day. -/
def isLeapYear (year : Int) : Bool := year % 4 = 0 && (year % 100 ≠ 0 || year % 400 = 0)

/-- The number of days of a month. -/
def daysIn (year : Int) (month : Nat) : Nat :=
  if month = 2 then if isLeapYear year then 29 else 28
  else if month = 4 || month = 6 || month = 9 || month = 11 then 30
  else 31

/-- The first year that can be written. -/
def firstYear : Int := -262143

/-- The last year that can be written. -/
def lastYear : Int := 262142

/-- The fields name a moment. -/
def isMoment (t : Timestamp) : Bool :=
  firstYear ≤ t.year && t.year ≤ lastYear && 1 ≤ t.month && t.month ≤ 12 && 1 ≤ t.day &&
    t.day ≤ daysIn t.year t.month && t.hour ≤ 23 && t.minute ≤ 59 && t.second ≤ 60

/-- The same time of the next day. -/
def nextDay (t : Timestamp) : Timestamp :=
  if t.day < daysIn t.year t.month then { t with day := t.day + 1 }
  else if t.month < 12 then { t with month := t.month + 1, day := 1 }
  else { t with year := t.year + 1, month := 1, day := 1 }

/-- The same time of the day before. -/
def previousDay (t : Timestamp) : Timestamp :=
  if 1 < t.day then { t with day := t.day - 1 }
  else if 1 < t.month then
    { t with month := t.month - 1, day := daysIn t.year (t.month - 1) }
  else { t with year := t.year - 1, month := 12, day := 31 }

/-- The time with the given number of minutes since midnight. -/
def atMinute (t : Timestamp) (minutes : Nat) : Timestamp :=
  { t with hour := minutes / 60, minute := minutes % 60 }

def dayMinutes : Nat := 24 * 60

/-- The moment at which clocks that are `offset` minutes ahead show the given time; the offset is
less than a day. -/
def ofLocal (t : Timestamp) (offset : Int) : Timestamp :=
  let minutes := ((t.hour * 60 + t.minute : Nat) : Int) - offset
  if minutes < 0 then (previousDay t).atMinute (minutes + dayMinutes).toNat
  else if minutes < dayMinutes then t.atMinute minutes.toNat
  else (nextDay t).atMinute (minutes - dayMinutes).toNat

/-- The day with the given number of days since the first of March of the year zero, at midnight.
Years that start in March have their leap day at the end. -/
def ofDayNumber (n : Nat) : Timestamp :=
  let era := n / 146097
  let dayOfEra := n % 146097
  let yearOfEra :=
    (dayOfEra - dayOfEra / 1460 + dayOfEra / 36524 - dayOfEra / 146096) / 365
  let dayOfYear := dayOfEra - (365 * yearOfEra + yearOfEra / 4 - yearOfEra / 100)
  let monthFromMarch := (5 * dayOfYear + 2) / 153
  let day := dayOfYear - (153 * monthFromMarch + 2) / 5 + 1
  let month := if monthFromMarch < 10 then monthFromMarch + 3 else monthFromMarch - 9
  let year := yearOfEra + era * 400 + (if month ≤ 2 then 1 else 0)
  ⟨year, month, day, 0, 0, 0, 0⟩

/-- The number of the first of January 1970. -/
def epochDay : Nat := 719468

/-- The moment that lies the given number of nanoseconds behind the start of 1970. -/
def ofEpoch (nanoseconds : Nat) : Timestamp :=
  let seconds := nanoseconds / 1000000000
  let t := (ofDayNumber (epochDay + seconds / 86400)).atMinute (seconds % 86400 / 60)
  { t with second := seconds % 60, nanosecond := nanoseconds % 1000000000 }

example : ofEpoch 951827696000000000 = ⟨2000, 2, 29, 12, 34, 56, 0⟩ := by decide

/-! ## Reading -/

/-- A number of one to `width` digits, and what follows it. -/
def number? (width : Nat) (cs : List Char) : Option (Nat × List Char) :=
  let ds := (cs.take width).takeWhile Char.isDigit
  if ds.isEmpty then none else some (digitsValue ds, cs.drop ds.length)

/-- A number of two digits behind blanks. -/
def twoDigits? (cs : List Char) : Option (Nat × List Char) := number? 2 (Text.trimStart cs)

/-- A year of up to four digits, or of any number of digits behind a sign. -/
def year? (cs : List Char) : Option (Int × List Char) :=
  match Text.trimStart cs with
  | '-' :: cs => (number? cs.length cs).map fun (n, rest) => (-(n : Int), rest)
  | '+' :: cs => (number? cs.length cs).map fun (n, rest) => ((n : Int), rest)
  | cs => (number? 4 cs).map fun (n, rest) => ((n : Int), rest)

/-- A separator behind blanks. -/
def separator? (c : Char) (cs : List Char) : Option (List Char) :=
  Text.after? [c] (Text.trimStart cs)

/-- What stands between date and time. -/
def dateEnd? : List Char → Option (List Char)
  | c :: cs => if c = 'T' || c = 't' || Text.isBlank c then some cs else none
  | [] => none

/-- The nanoseconds behind a point: nine digits, missing ones are zeros and further ones are passed
over. -/
def fraction? : List Char → Option (Nat × List Char)
  | '.' :: cs =>
    let ds := cs.takeWhile Char.isDigit
    if ds.isEmpty then none
    else some (digitsValue ((ds ++ List.replicate 9 '0').take 9), cs.drop ds.length)
  | cs => some (0, cs)

/-- Exactly two digits, the first of them not above `top`. -/
def pair? (top : Char) : List Char → Option (Nat × List Char)
  | a :: b :: cs =>
    if a.isDigit && b.isDigit && a ≤ top then some (digitsValue [a, b], cs) else none
  | _ => none

/-- The sign of an offset: a plus, a hyphen or a minus. -/
def sign? : List Char → Option (Int × List Char)
  | '+' :: cs => some (1, cs)
  | '-' :: cs => some (-1, cs)
  | '\u2212' :: cs => some (-1, cs)
  | _ => none

/-- An offset in minutes: hours and minutes behind a sign, with colons and blanks between them. -/
def signedOffset? (cs : List Char) : Option (Int × List Char) := do
  let (sign, rest) ← sign? cs
  let (hours, rest) ← pair? '9' rest
  let (minutes, rest) ← pair? '5' (rest.dropWhile fun c => c = ':' || Text.isBlank c)
  if hours < 24 then some (sign * (hours * 60 + minutes : Nat), rest) else none

/-- An offset in minutes: that of coordinated universal time by one of its names, or a signed
one. -/
def offset? : List Char → Option (Int × List Char)
  | 'Z' :: cs | 'z' :: cs => some (0, cs)
  | cs =>
    if (cs.take 3).map Char.toLower = ['u', 't', 'c'] then some (0, cs.drop 3)
    else signedOffset? cs

/-- Reads a timestamp. Only blanks may follow it. -/
def ofText? (s : String) : Option Timestamp := do
  let (year, rest) ← year? s.toList
  let (month, rest) ← (separator? '-' rest).bind twoDigits?
  let (day, rest) ← (separator? '-' rest).bind twoDigits?
  let (hour, rest) ← (dateEnd? rest).bind twoDigits?
  let (minute, rest) ← (separator? ':' rest).bind twoDigits?
  let (second, rest) ← (separator? ':' rest).bind twoDigits?
  let (nanosecond, rest) ← fraction? rest
  let (offset, rest) ← offset? (Text.trimStart rest)
  let shown : Timestamp := ⟨year, month, day, hour, minute, second, nanosecond⟩
  let moment := shown.ofLocal offset
  if (Text.trimStart rest).isEmpty && shown.isMoment && moment.isMoment then some moment else none

/-! ## Printing -/

/-- A year: four digits, or a sign and at least four digits outside of the first ten thousand
years. -/
def printYear (year : Int) : List Char :=
  if 0 ≤ year && year ≤ 9999 then padded 4 year.toNat
  else (if year < 0 then '-' else '+') :: padded 4 year.natAbs

/-- The fewest of no, three, six or nine digits that give the nanoseconds. -/
def printFraction (n : Nat) : List Char :=
  if n = 0 then []
  else if n % 1000000 = 0 then '.' :: padded 3 (n / 1000000)
  else if n % 1000 = 0 then '.' :: padded 6 (n / 1000)
  else '.' :: padded 9 n

/-- The canonical text of a moment. -/
def toText (t : Timestamp) : String :=
  String.ofList (printYear t.year ++ '-' :: padded 2 t.month ++ '-' :: padded 2 t.day ++
    'T' :: padded 2 t.hour ++ ':' :: padded 2 t.minute ++ ':' :: padded 2 t.second ++
    printFraction t.nanosecond ++ ['Z'])

example : (ofText? "2020-1-2 03:04:05.5 -0130").map toText = some "2020-01-02T04:34:05.500Z" := by
  cbv

end Timestamp

end ServiceLinker
