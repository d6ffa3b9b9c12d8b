namespace ScriptLauncher

-- Byte texts. Arguments, paths, environment entries, file contents and messages are sequences of
-- bytes that need not be UTF-8, so every text of the launcher is a list of bytes. Lengths, cuts and
-- order are those of bytes.

abbrev Bytes := List UInt8

def text (s : String) : Bytes := s.toList.flatMap String.utf8EncodeChar

def byte (c : Char) : UInt8 := c.val.toUInt8

namespace Bytes

def newline : UInt8 := 10
def space : UInt8 := 32
def slash : UInt8 := 47

def ofNat (n : Nat) : Bytes := (Nat.toDigits 10 n).map byte

def ofInt : Int → Bytes
  | .ofNat n => ofNat n
  | .negSucc n => byte '-' :: ofNat (n + 1)

def padded (width n : Nat) : Bytes :=
  let digits := ofNat n
  List.replicate (width - digits.length) (byte '0') ++ digits

-- Lexicographic order by byte value; a text comes before its extensions.
def le : Bytes → Bytes → Bool
  | [],_ => true
  | _ :: _,[] => false
  | a :: s,b :: t => a < b || (a == b && le s t)

-- The pieces between occurrences of a byte. There is always one more piece than occurrences.
def splitOn (sep : UInt8) : Bytes → List Bytes
  | [] => [[]]
  | b :: s =>
    if b == sep then [] :: splitOn sep s
    else match splitOn sep s with
      | [] => [[b]]
      | piece :: pieces => (b :: piece) :: pieces

def join (sep : Bytes) : List Bytes → Bytes
  | [] => []
  | [piece] => piece
  | piece :: pieces => piece ++ sep ++ join sep pieces

def after? : Bytes → Bytes → Option Bytes
  | [],s => some s
  | _ :: _,[] => none
  | a :: start,b :: s => if a == b then after? start s else none

def cut (sep : UInt8) (s : Bytes) : Option (Bytes × Bytes) :=
  match s.dropWhile (· != sep) with
  | [] => none
  | _ :: rest => some (s.takeWhile (· != sep),rest)

-- ASCII capitals made small; every other byte stays.
def lower (s : Bytes) : Bytes :=
  s.map fun b => if 65 ≤ b && b ≤ 90 then b + 32 else b

end Bytes

end ScriptLauncher
