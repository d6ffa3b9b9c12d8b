import ScriptLauncher.Text.Numeral

namespace ScriptLauncher.Binary

-- Fractions in binary, with a fixed number of significant bits, from decimal text and back. A value
-- is exact while it is worked on: only reading it rounds it to its bits, and only writing it rounds
-- it to its digits, each time to the nearest and a half to the even neighbour.

-- A value without its sign: a numerator over a denominator, or none of the numbers.
inductive Magnitude where
  | finite (numerator denominator : Nat)
  | infinite
  | undefined

structure Value where
  isNegative : Bool
  magnitude : Magnitude

def rounded (numerator denominator : Nat) : Nat :=
  let whole := numerator / denominator
  let twice := 2 * (numerator % denominator)
  if twice < denominator then whole
  else if denominator < twice then whole + 1
  else if whole % 2 == 0 then whole
  else whole + 1

def toBits (bits numerator denominator : Nat) : Magnitude :=
  if numerator == 0 then .finite 0 1
  else
    -- The quotient scaled by this power of two has the wanted bits, or one more or less.
    let size := numerator.log2
    let base := denominator.log2
    if size + 1 < base + bits then
      let up := base + bits - size - 1
      let scaled := numerator * Nat.pow 2 up
      let short := scaled / denominator < Nat.pow 2 (bits - 1)
      let (up,scaled) := if short then (up + 1,scaled * 2) else (up,scaled)
      .finite (rounded scaled denominator) (Nat.pow 2 up)
    else
      let down := size + 1 - base - bits
      let unit := denominator * Nat.pow 2 down
      let long := Nat.pow 2 bits ≤ numerator / unit
      let (down,unit) := if long then (down + 1,unit * 2) else (down,unit)
      .finite (rounded numerator unit * Nat.pow 2 down) 1

-- The decimal number at the front of a text, and what is behind it; none where there is none.
def decimal? (bits : Nat) (s : List Char) : Option (Magnitude × List Char) :=
  let whole := s.takeWhile Numeral.isDigit
  let rest := s.drop whole.length
  let (fraction,rest) := match rest with
    | '.' :: behind =>
      let digits := behind.takeWhile Numeral.isDigit
      if whole.isEmpty && digits.isEmpty then ([],rest) else (digits,behind.drop digits.length)
    | _ => ([],rest)
  if whole.isEmpty && fraction.isEmpty then none
  else
    let (exponent,rest) : Int × List Char := match rest with
      | e :: behind =>
        let digits := (Numeral.unsigned behind).takeWhile Numeral.isDigit
        if (e == 'e' || e == 'E') && !digits.isEmpty then
          let size : Int := min (Numeral.decimal digits) 100000
          (if behind.head? == some '-' then -size else size,(Numeral.unsigned behind).drop digits.length)
        else (0,rest)
      | [] => (0,rest)
    let digits := Numeral.decimal (whole ++ fraction)
    let power := exponent - fraction.length
    let value :=
      if 0 ≤ power then toBits bits (digits * Nat.pow 10 power.toNat) 1
      else toBits bits digits (Nat.pow 10 (-power).toNat)
    some (value,rest)

def hexadecimal? (bits : Nat) (s : List Char) : Option (Magnitude × List Char) :=
  let isHex (c : Char) : Bool := (Numeral.hexDigit? c).isSome
  match s with
  | '0' :: x :: rest =>
    let whole := rest.takeWhile isHex
    let behind := rest.drop whole.length
    let (fraction,behind) := match behind with
      | '.' :: more => (more.takeWhile isHex,more.dropWhile isHex)
      | _ => ([],behind)
    if (x != 'x' && x != 'X') || (whole.isEmpty && fraction.isEmpty) then none
    else
      let (exponent,behind) : Int × List Char := match behind with
        | p :: more =>
          let digits := (Numeral.unsigned more).takeWhile Numeral.isDigit
          if (p == 'p' || p == 'P') && !digits.isEmpty then
            let size : Int := min (Numeral.decimal digits) 100000
            (if more.head? == some '-' then -size else size,(Numeral.unsigned more).drop digits.length)
          else (0,behind)
        | [] => (0,behind)
      let digits := Numeral.value 16 (whole ++ fraction)
      let power := exponent - 4 * fraction.length
      some (if 0 ≤ power then toBits bits (digits * Nat.pow 2 power.toNat) 1
        else toBits bits digits (Nat.pow 2 (-power).toNat),behind)
  | _ => none

def startsWith (s : List Char) (word : String) : Bool :=
  word.toList.isPrefixOf (s.map Char.toLower)

def ofText? (bits : Nat) (s : List Char) : Option (Value × List Char) :=
  let s := s.dropWhile fun c => c == ' ' || ('\t' ≤ c && c ≤ '\r')
  let isNegative := s.head? == some '-'
  let body := Numeral.unsigned s
  if startsWith body "infinity" then some (⟨isNegative,.infinite⟩,body.drop 8)
  else if startsWith body "inf" then some (⟨isNegative,.infinite⟩,body.drop 3)
  else if startsWith body "nan" then some (⟨isNegative,.undefined⟩,body.drop 3)
  else ((hexadecimal? bits body).orElse fun _ => decimal? bits body).map fun (magnitude,rest) => (⟨isNegative,magnitude⟩,rest)

def withPoint (places : Nat) (alwaysPoint : Bool) (n : Nat) : List Char :=
  let digits := Nat.toDigits 10 n
  let digits := List.replicate (places + 1 - digits.length) '0' ++ digits
  let whole := digits.take (digits.length - places)
  let fraction := digits.drop (digits.length - places)
  if places == 0 then (if alwaysPoint then whole ++ ['.'] else whole) else whole ++ '.' :: fraction

def fixed (places : Nat) (alwaysPoint : Bool) (numerator denominator : Nat) : List Char :=
  withPoint places alwaysPoint (rounded (numerator * Nat.pow 10 places) denominator)

def order (numerator denominator : Nat) : Int :=
  if numerator == 0 then 0
  else if denominator ≤ numerator then ((Nat.toDigits 10 (numerator / denominator)).length : Int) - 1
  else
    let quotient := Nat.toDigits 10 (denominator / numerator)
    let n := quotient.length
    -- One over the quotient lies between two powers of ten, or on one.
    if denominator ≤ numerator * Nat.pow 10 (n - 1) then -((n : Int) - 1) else -(n : Int)

def significant (places numerator denominator : Nat) : Nat × Int :=
  let power := order numerator denominator
  let shift : Int := (places : Int) - power
  let n :=
    if 0 ≤ shift then rounded (numerator * Nat.pow 10 shift.toNat) denominator
    else rounded numerator (denominator * Nat.pow 10 (-shift).toNat)
  -- Rounding can give one digit more.
  if Nat.pow 10 (places + 1) ≤ n then (n / 10,power + 1) else (n,power)

def exponentText (mark : Char) (power : Int) : List Char :=
  let digits := Nat.toDigits 10 power.natAbs
  mark :: (if power < 0 then '-' else '+') :: (if digits.length < 2 then '0' :: digits else digits)

def scientific (places : Nat) (alwaysPoint : Bool) (mark : Char) (numerator denominator : Nat) : List Char :=
  let (digits,power) := significant places numerator denominator
  withPoint places alwaysPoint digits ++ exponentText mark power

def withoutZeros (s : List Char) : List Char :=
  if !s.contains '.' then s
  else
    let kept := (s.reverse.dropWhile (· == '0'))
    (if kept.head? == some '.' then kept.drop 1 else kept).reverse

def general (precision : Nat) (alwaysPoint : Bool) (mark : Char) (numerator denominator : Nat) : List Char :=
  let precision := max 1 precision
  let (digits,power) := significant (precision - 1) numerator denominator
  let strip (s : List Char) : List Char := if alwaysPoint then s else withoutZeros s
  if power < -4 || (precision : Int) ≤ power then
    strip (withPoint (precision - 1) alwaysPoint digits) ++ exponentText mark power
  else strip (fixed ((precision : Int) - 1 - power).toNat alwaysPoint numerator denominator)

end ScriptLauncher.Binary
