namespace ScriptLauncher.Calendar

-- The calendar: which days and times exist.

def isLeapYear (year : Nat) : Bool :=
  year % 4 == 0 && (year % 100 != 0 || year % 400 == 0)

def daysInMonth (year month : Nat) : Nat :=
  if month == 2 then (if isLeapYear year then 29 else 28)
  else if [4,6,9,11].contains month then 30
  else 31

def isDay (year month day : Nat) : Bool :=
  1 ≤ month && month ≤ 12 && 1 ≤ day && day ≤ daysInMonth year month

-- The days from the first of January of the year 0 to another day. A year that begins a multiple of
-- a period adds to the count of those behind it.
def toDays (year month day : Nat) : Nat :=
  let leapYears := (year + 3) / 4 + (year + 399) / 400 - (year + 99) / 100
  let months := (List.range (month - 1)).foldl (fun days m => days + daysInMonth year (m + 1)) 0
  365 * year + leapYears + months + (day - 1)

-- The year and the day in it, from a day counted from the first of January of a year on. Each year
-- takes at least a day, so the count bounds the years.
def yearOf : Nat → Nat → Nat → Nat × Nat
  | 0,year,day => (year,day)
  | fuel + 1,year,day =>
    let length := if isLeapYear year then 366 else 365
    if day < length then (year,day) else yearOf fuel (year + 1) (day - length)

def monthOf (year : Nat) : Nat → Nat → Nat → Nat × Nat
  | 0,month,day => (month,day + 1)
  | fuel + 1,month,day =>
    let length := daysInMonth year month
    if day < length then (month,day + 1) else monthOf year fuel (month + 1) (day - length)

def ofDays (days : Nat) : Nat × Nat × Nat :=
  let (year,rest) := yearOf days 1970 days
  let (month,day) := monthOf year 12 1 rest
  (year,month,day)

end ScriptLauncher.Calendar
