import ScriptLauncher.Text.Binary
import ScriptLauncher.Text.Bytes

namespace ScriptLauncher.Process

-- Layout of values as a format asks for it: flags, a width, a precision and a kind. The escapes of
-- the texts that the printing programs take are here too.

structure Layout where
  left : Bool := false
  zeros : Bool := false
  plus : Bool := false
  blank : Bool := false
  alternate : Bool := false
  width : Nat := 0
  precision : Option Nat := none

def digitsOf (base : Nat) (isUpper : Bool) (n : Nat) : Bytes :=
  (Nat.toDigits base n).map fun c => byte (if isUpper then c.toUpper else c)

namespace Layout

def isFlag (b : UInt8) : Bool := (text "#-+ 0").contains b

def withFlags (flags : Bytes) : Layout :=
  let has (c : Char) : Bool := flags.contains (byte c)
  { left := has '-',zeros := has '0',plus := has '+',blank := has ' ',alternate := has '#' }

def setWidth (l : Layout) (n : Int) : Layout :=
  if n < 0 then { l with left := true,width := n.natAbs } else { l with width := n.toNat }

def setPrecision (l : Layout) (n : Int) : Layout :=
  { l with precision := if n < 0 then none else some n.toNat }

def text (l : Layout) (s : Bytes) : Bytes :=
  let shown := match l.precision with
    | some n => s.take n
    | none => s
  let missing := List.replicate (l.width - shown.length) Bytes.space
  if l.left then shown ++ missing else missing ++ shown

def filled (l : Layout) (mayZero : Bool) (sign digits : Bytes) : Bytes :=
  let missing := l.width - (sign.length + digits.length)
  if l.left then sign ++ digits ++ List.replicate missing Bytes.space
  else if l.zeros && mayZero then sign ++ List.replicate missing (byte '0') ++ digits
  else List.replicate missing Bytes.space ++ sign ++ digits

def signOf (l : Layout) (isNegative : Bool) : Bytes :=
  if isNegative then [byte '-'] else if l.plus then [byte '+'] else if l.blank then [Bytes.space] else []

def padded (l : Layout) (n : Nat) (digits : Bytes) : Bytes :=
  match l.precision with
  | some 0 => if n == 0 then [] else digits
  | some p => List.replicate (p - digits.length) (byte '0') ++ digits
  | none => digits

def signed (l : Layout) (n : Int) : Bytes :=
  l.filled l.precision.isNone (l.signOf (n < 0)) (l.padded n.natAbs (digitsOf 10 false n.natAbs))

def unsigned (l : Layout) (kind : UInt8) (n : Nat) : Bytes :=
  let isUpper := kind == byte 'X'
  let base := if kind == byte 'o' then 8 else if kind == byte 'u' then 10 else 16
  let digits := l.padded n (digitsOf base isUpper n)
  let digits :=
    if l.alternate && base == 8 && digits.head? != some (byte '0') then byte '0' :: digits else digits
  let mark := if l.alternate && base == 16 && n != 0 then [byte '0',kind] else []
  l.filled l.precision.isNone mark digits

-- A fraction; the kind decides on the notation.
def fraction (l : Layout) (kind : UInt8) (v : Binary.Value) : Bytes :=
  let isUpper := 65 ≤ kind && kind ≤ 90
  let precision := l.precision.getD 6
  let lowerKind := if isUpper then kind + 32 else kind
  let (isNumber,digits) := match v.magnitude with
    | .infinite => (false,"inf".toList)
    | .undefined => (false,"nan".toList)
    | .finite numerator denominator =>
      (true,
        if lowerKind == byte 'f' then Binary.fixed precision l.alternate numerator denominator
        else if lowerKind == byte 'e' then Binary.scientific precision l.alternate 'e' numerator denominator
        else Binary.general precision l.alternate 'e' numerator denominator)
  l.filled isNumber (l.signOf v.isNegative)
    (digits.map fun c => byte (if isUpper then c.toUpper else c))

end Layout

def isOctal (b : UInt8) : Bool := 48 ≤ b && b ≤ 55

def octal (count : Nat) (s : Bytes) : UInt8 × Bytes :=
  let digits := (s.take count).takeWhile isOctal
  (UInt8.ofNat (digits.foldl (fun n b => n * 8 + (b.toNat - 48)) 0),s.drop digits.length)

def control? (b : UInt8) : Option UInt8 :=
  [(byte 'a',7),(byte 'b',8),(byte 'f',12),(byte 'n',10),(byte 'r',13),(byte 't',9),
    (byte 'v',11),(byte '\\',92)].lookup b

end ScriptLauncher.Process
