namespace ScriptLauncher.Numeral

-- Numerals in the notations that document formats share: digits of a base, signs, exponents, and
-- the range of doubles.

def isDigit (c : Char) : Bool := '0' ≤ c && c ≤ '9'

def isSign (c : Char) : Bool := c == '+' || c == '-'

def unsigned (s : List Char) : List Char :=
  if (s.head?.map isSign).getD false then s.drop 1 else s

def hexDigit? (c : Char) : Option Nat :=
  if '0' ≤ c && c ≤ '9' then some (c.toNat - 48)
  else if 'a' ≤ c && c ≤ 'f' then some (c.toNat - 87)
  else if 'A' ≤ c && c ≤ 'F' then some (c.toNat - 55)
  else none

def inBase (base : Nat) (c : Char) : Bool :=
  match hexDigit? c with
  | some d => d < base
  | none => false

def value (base : Nat) (digits : List Char) : Nat :=
  digits.foldl (fun acc c => acc * base + (hexDigit? c).getD 0) 0

def decimal (digits : List Char) : Nat := value 10 digits

def dropSeparators? : Option Char → List Char → Option (List Char)
  | previous,[] => if previous == some '_' then none else some []
  | previous,c :: s =>
    if c == '_' then
      if (previous.map isDigit).getD false && (s.head?.map isDigit).getD false then
        dropSeparators? (some c) s
      else none
    else (dropSeparators? (some c) s).map (c :: ·)

def maxInt : Nat := 0x7FFFFFFFFFFFFFFF

-- The character whose code is at the front of a text, in so many hexadecimal digits. Surrogates are
-- no characters.
def codePoint? (count : Nat) (s : List Char) : Option Char :=
  let digits := s.take count
  if digits.length < count || !digits.all (inBase 16) then none
  else
    let n := value 16 digits
    if n < 0xD800 || (0xE000 ≤ n && n ≤ 0x10FFFF) then some (Char.ofNat n) else none

-- The least number that rounds to no finite double: half a step above the greatest one.
def overflow : Nat := Nat.pow 2 1024 - Nat.pow 2 970

def isFinite (digits : List Char) (exponent : Int) : Bool :=
  let significant := digits.dropWhile (· == '0')
  let magnitude : Int := significant.length + exponent
  -- Far from the bound the number of digits decides, near it the comparison is exact.
  if significant.isEmpty || magnitude < 300 then true
  else if 320 < magnitude then false
  else if 0 ≤ exponent then
    decimal significant * Nat.pow 10 exponent.toNat < overflow
  else
    decimal significant < overflow * Nat.pow 10 (-exponent).toNat

def exponent? : List Char → Option Int
  | [] => some 0
  | e :: s =>
    if e == 'e' || e == 'E' then
      let body := unsigned s
      if body.isEmpty || !body.all isDigit then none
      else
        -- An exponent of many digits is beyond any bound, on whichever side.
        let size : Int := if 6 < (body.dropWhile (· == '0')).length then 1000000 else decimal body
        some (if s.head? == some '-' then -size else size)
    else none

-- What follows the digits of a text is an exponent, if anything, and the number is finite. The
-- digits before and after the point are given apart.
def isFloat (whole fraction rest : List Char) : Bool :=
  match exponent? rest with
  | some e => isFinite (whole ++ fraction) (e - fraction.length)
  | none => false

end ScriptLauncher.Numeral
