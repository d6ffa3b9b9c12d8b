import ScriptLauncher.Text.Calendar
import ScriptLauncher.Toml.Text

namespace ScriptLauncher.Toml

-- Numbers, dates and times of a TOML document. The launcher has no use for their values, so these
-- readers only find where one ends and decide whether it is one: integers fit 64 bits, floats are
-- finite, and dates are on the calendar.

open Numeral

def digits? (count : Nat) (s : List Char) : Option Nat :=
  if s.length == count && s.all isDigit then some (decimal s) else none

def isDate (s : List Char) : Bool :=
  s.length == 10 && s[4]? == some '-' && s[7]? == some '-' &&
    match digits? 4 (s.take 4),digits? 2 ((s.drop 5).take 2),digits? 2 (s.drop 8) with
    | some year,some month,some day => Calendar.isDay year month day
    | _,_,_ => false

def inRange (last : Nat) : Option Nat → Bool
  | some n => n ≤ last
  | none => false

def afterTime? (s : List Char) : Option (List Char) :=
  if s[2]? == some ':' && s[5]? == some ':' && inRange 23 (digits? 2 (s.take 2)) &&
      inRange 59 (digits? 2 ((s.drop 3).take 2)) && inRange 60 (digits? 2 ((s.drop 6).take 2)) then
    match s.drop 8 with
    | '.' :: fraction =>
      if (fraction.takeWhile isDigit).isEmpty then none else some (fraction.dropWhile isDigit)
    | rest => some rest
  else none

def afterDateTime? (s : List Char) : Option (List Char) :=
  if isDate (s.take 10) && [some 'T',some 't',some ' '].contains s[10]? then afterTime? (s.drop 11)
  else none

def isOffset : List Char → Bool
  | ['Z'] => true
  | ['z'] => true
  | sign :: s =>
    (sign == '+' || sign == '-') && s.length == 5 && s[2]? == some ':' &&
      inRange 23 (digits? 2 (s.take 2)) && inRange 59 (digits? 2 (s.drop 3))
  | [] => false

structure Seen where
  date : Bool := false
  time : Bool := false
  offset : Bool := false
  blank : Bool := false

-- The characters of a date or time: digits and separators, and one space that a digit follows.
def spanDateTime : Nat → Nat → Seen → List Char → Nat × Seen
  | 0,index,seen,_ => (index,seen)
  | _ + 1,index,seen,[] => (index,seen)
  | fuel + 1,index,seen,c :: s =>
    if isDigit c then spanDateTime fuel (index + 1) seen s
    else if c == '-' then
      spanDateTime fuel (index + 1) { seen with date := true,offset := seen.offset || 8 ≤ index } s
    else if c == 'T' || c == 't' || c == ':' || c == '.' then
      spanDateTime fuel (index + 1) { seen with time := true } s
    else if c == '+' || c == 'Z' || c == 'z' then
      spanDateTime fuel (index + 1) { seen with offset := true } s
    else if c == ' ' && !seen.blank then
      match s with
      | d :: rest =>
        if isDigit d then
          let seen := { seen with blank := true,time := true }
          -- The character after the digit counts as read as well, where there is one.
          match rest with
          | _ :: more => spanDateTime fuel (index + 3) seen more
          | [] => (index + 2,seen)
        else (index,seen)
      | [] => (index,seen)
    else (index,seen)

def isDateTime (seen : Seen) (s : List Char) : Bool :=
  if seen.time then
    if seen.date then
      match afterDateTime? s with
      | some rest => if seen.offset then isOffset rest else rest.isEmpty
      | none => false
    else afterTime? s == some []
  else isDate s

-- Underscores stand between digits only; the text without them.
def dropUnderscores? : Bool → List Char → Option (List Char)
  | before,[] => if before then some [] else none
  | before,c :: s =>
    if c == '_' then (if before then dropUnderscores? false s else none)
    else (dropUnderscores? true s).map (c :: ·)

def isMarkedInteger (base : Nat) (s : List Char) : Bool :=
  match dropUnderscores? false s with
  | some ds =>
    ds.all (inBase base) && value base ds ≤ maxInt
  | none => false

-- A decimal integer: no leading zeros, and within 64 bits.
def isDecimalInteger (s : List Char) : Bool :=
  let negative := s.head? == some '-'
  match dropUnderscores? false (unsigned s) with
  | some ds =>
    ds.all isDigit && (ds.length == 1 || ds.head? != some '0') &&
      decimal ds ≤ (if negative then maxInt + 1 else maxInt)
  | none => false

def isPlainFloat (s : List Char) : Bool :=
  let body := unsigned s
  let whole := body.takeWhile isDigit
  let rest := body.dropWhile isDigit
  let wholeOk := !whole.isEmpty && (whole.length == 1 || whole.head? != some '0')
  match rest with
  | '.' :: more =>
    let fraction := more.takeWhile isDigit
    wholeOk && !fraction.isEmpty && Numeral.isFloat whole fraction (more.dropWhile isDigit)
  | _ => wholeOk && Numeral.isFloat whole [] rest

def isFloat (s : List Char) : Bool :=
  let body := unsigned s
  if body == ['i','n','f'] || body == ['n','a','n'] then true
  else match dropSeparators? none s with
    | some plain => isPlainFloat plain
    | none => false

def isNumberChar (c : Char) : Bool :=
  isDigit c || isSign c || c == '_' || c == '.' || c == 'e' || c == 'E'

-- A number at the start of a text; what follows it.
def afterNumber? (s : List Char) : Option (List Char) :=
  let marked (base : Nat) (valid : Char → Bool) : Option (List Char) :=
    let body := (s.drop 2).takeWhile valid
    if isMarkedInteger base body then some (s.drop (2 + body.length)) else none
  let unmarked : Option (List Char) :=
    let span := s.takeWhile isNumberChar
    let rest := s.dropWhile isNumberChar
    let word := rest.take 3
    if word == ['i','n','f'] || word == ['n','a','n'] then
      if isFloat (span ++ word) then some (rest.drop 3) else none
    else if span.any fun c => c == '.' || c == 'e' || c == 'E' then
      if isFloat span then some rest else none
    else if isDecimalInteger span then some rest else none
  match s with
  | '0' :: 'x' :: _ => marked 16 fun c => (hexDigit? c).isSome || c == '_'
  | '0' :: 'o' :: _ => marked 8 fun c => inBase 8 c || c == '_'
  | '0' :: 'b' :: _ => marked 2 fun c => inBase 2 c || c == '_'
  | _ => unmarked

def startsDateTime (s : List Char) : Bool :=
  let lead := (s.takeWhile isDigit).length
  (lead == 2 && s[2]? == some ':') || (lead == 4 && s[4]? == some '-')

-- A number, date or time at the start of a text; what follows it.
def afterScalar? (s : List Char) : Option (List Char) :=
  if startsDateTime s then
    let (length,seen) := spanDateTime (s.length + 1) 0 {} s
    if isDateTime seen (s.take length) then some (s.drop length) else none
  else afterNumber? s

end ScriptLauncher.Toml
