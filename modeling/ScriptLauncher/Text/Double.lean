import ScriptLauncher.Text.Binary
import ScriptLauncher.Text.Numeral

namespace ScriptLauncher

-- Floating-point numbers of 64 bits as exact numbers. Every finite one is a whole multiple of the
-- least, so it is kept as that multiple; plus and minus zero are then the same number.

-- A number of 64 bits. The step is 2 to the power of -1074.
inductive Double where
  | finite (steps : Int)
  | infinite (isNegative : Bool)
  | undefined
  deriving DecidableEq, Repr

namespace Double

-- The steps nearest to a fraction, a half to the even neighbour. Numbers of more than 53 bits have
-- zeros behind those.
def nearest (numerator denominator : Nat) : Nat :=
  let scaled := numerator * Nat.pow 2 1074
  let gap := Nat.pow 2 ((scaled / denominator).log2 - 52)
  Binary.rounded scaled (denominator * gap) * gap

-- The steps of a decimal number: digits times a power of ten.
def ofDigits (digits : List Char) (exponent : Int) : Nat :=
  let significant := digits.dropWhile (· == '0')
  -- Far below the least number no digit matters.
  if significant.length + exponent < -330 then 0
  else if 0 ≤ exponent then nearest (Numeral.decimal significant * Nat.pow 10 exponent.toNat) 1
  else nearest (Numeral.decimal significant) (Nat.pow 10 (-exponent).toNat)

def withSign (isNegative : Bool) (steps : Nat) : Double :=
  .finite (if isNegative then -(steps : Int) else steps)

def ofInt (n : Int) : Double := withSign (n < 0) (nearest n.natAbs 1)

-- A decimal fraction with an optional sign and an optional exponent: digits before the point, after
-- it, or both. Numbers beyond the greatest double are none.
def ofText? (s : List Char) : Option Double :=
  let body := Numeral.unsigned s
  let whole := body.takeWhile Numeral.isDigit
  let (fraction,rest) := match body.dropWhile Numeral.isDigit with
    | '.' :: more => (more.takeWhile Numeral.isDigit,more.dropWhile Numeral.isDigit)
    | rest => ([],rest)
  let digits := whole ++ fraction
  if digits.isEmpty || !Numeral.isFloat whole fraction rest then none
  else
    (Numeral.exponent? rest).map fun exponent =>
      withSign (s.head? == some '-') (ofDigits digits (exponent - fraction.length))

-- Equality as arithmetic has it: what is no number differs from everything.
def isSame : Double → Double → Bool
  | .finite a,.finite b => a == b
  | .infinite a,.infinite b => a == b
  | _,_ => false

end Double

end ScriptLauncher
