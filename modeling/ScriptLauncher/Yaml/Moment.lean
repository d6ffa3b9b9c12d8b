import ScriptLauncher.Text.Calendar
import ScriptLauncher.Text.Numeral

namespace ScriptLauncher.Yaml

-- Moments in a YAML document: a date, alone or with a time of day and the zone in which that is
-- told.

open Numeral

-- The zone of a time: the standard one, also where none is named, or so many minutes ahead of it.
inductive Zone where
  | standard
  | offset (minutes : Int)
  deriving DecidableEq, Repr

namespace Zone

def minutes : Zone → Int
  | .standard => 0
  | .offset minutes => minutes

-- Whether all moments with this offset are in one zone. Zones at whole hours that are in use
-- somewhere are shared; every other offset makes a zone of its own each time.
def isShared : Zone → Bool
  | .standard => true
  | .offset minutes => minutes % 60 == 0 && -12 * 60 ≤ minutes && minutes ≤ 14 * 60

def ofText? : List Char → Option Zone
  | ['Z'] => some .standard
  | [sign,h,k,':',m,n] =>
    let hours := decimal [h,k]
    let rest := decimal [m,n]
    if isSign sign && [h,k,m,n].all isDigit && hours ≤ 24 && rest ≤ 60 then
      let minutes : Int := hours * 60 + rest
      some (.offset (if sign == '-' then -minutes else minutes))
    else none
  | _ => none

end Zone

-- A moment: seconds since the year 0 began in the standard zone, billionths of a second after them,
-- and the zone in which it was told.
structure Moment where
  seconds : Int
  billionths : Nat
  zone : Zone
  deriving DecidableEq, Repr

namespace Moment

def isSame (a b : Moment) : Bool := a == b && a.zone.isShared

def short? : List Char → Option (Nat × List Char)
  | a :: b :: s =>
    if !isDigit a then none
    else if isDigit b then some (decimal [a,b],s)
    else some (decimal [a],b :: s)
  | [a] => if isDigit a then some (decimal [a],[]) else none
  | [] => none

def field? (bound : Nat) (separator : Char) (s : List Char) : Option (Nat × List Char) :=
  match short? s with
  | some (n,c :: rest) => if n < bound && c == separator then some (n,rest) else none
  | _ => none

def toBillionths (digits : List Char) : Nat :=
  let kept := digits.take 9
  decimal kept * Nat.pow 10 (9 - kept.length)

def seconds? (s : List Char) : Option (Nat × Nat × List Char) :=
  match short? s with
  | some (n,rest) =>
    if 60 ≤ n then none
    else match rest with
      | point :: d :: more =>
        if (point == '.' || point == ',') && isDigit d then
          some (n,toBillionths (d :: more.takeWhile isDigit),more.dropWhile isDigit)
        else some (n,0,rest)
      | _ => some (n,0,rest)
  | none => none

def time? (s : List Char) : Option (Nat × Nat × List Char) := do
  let (hour,s) ← field? 24 ':' s
  let (minute,s) ← field? 60 ':' s
  let (second,billionths,rest) ← seconds? s
  return (hour * 3600 + minute * 60 + second,billionths,rest)

def date? (s : List Char) : Option (Nat × List Char) :=
  let digits := s.takeWhile isDigit
  if digits.length != 4 then none
  else
    let year := decimal digits
    match s.drop 4 with
    | '-' :: s => do
      let (month,s) ← field? 13 '-' s
      let (day,rest) ← short? s
      if Calendar.isDay year month day then return (Calendar.toDays year month day,rest) else none
    | _ => none

-- A date, alone or with a time: after a `T` one with a zone, after spaces one without.
def ofText? (s : List Char) : Option Moment := do
  let (days,rest) ← date? s
  let midnight : Int := days * 86400
  match rest with
  | [] => return ⟨midnight,0,.standard⟩
  | c :: s =>
    if c == 'T' || c == 't' then
      let (seconds,billionths,rest) ← time? s
      let zone ← Zone.ofText? rest
      return ⟨midnight + seconds - zone.minutes * 60,billionths,zone⟩
    else if c == ' ' then
      let (seconds,billionths,rest) ← time? (s.dropWhile (· == ' '))
      if rest.isEmpty then return ⟨midnight + seconds,billionths,.standard⟩ else none
    else none

end Moment

end ScriptLauncher.Yaml
