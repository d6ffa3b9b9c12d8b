import ScriptLauncher.Text.Bytes

namespace ScriptLauncher

-- Characters of a byte text. A byte that starts no well-formed UTF-8 sequence stands alone as a
-- stray byte, and reading goes on with the byte after it, so every byte text has a reading.

inductive Rune where
  | char (c : Char)
  | stray (b : UInt8)
  deriving DecidableEq, Repr

namespace Rune

def bytes : Rune → Bytes
  | .char c => String.utf8EncodeChar c
  | .stray b => [b]

-- A stray byte reads as the replacement character wherever a character is asked for.
def toChar : Rune → Char
  | .char c => c
  | .stray _ => '\uFFFD'

end Rune

namespace Utf8

def isTail (b : UInt8) : Bool := 0x80 ≤ b && b ≤ 0xBF

def bits (b : UInt8) (mask : Nat) : Nat := b.toNat % mask

-- The character that starts with a byte, given the bytes after it, and how many of those belong to
-- it. Overlong forms, surrogates and values above U+10FFFF are refused by the range of the second
-- byte.
def scalar? (a : UInt8) : Bytes → Option (Char × Nat)
  | s =>
    if a < 0x80 then some (Char.ofNat a.toNat,0)
    else if 0xC2 ≤ a && a ≤ 0xDF then
      match s with
      | b :: _ => if isTail b then some (Char.ofNat (bits a 32 * 64 + bits b 64),1) else none
      | [] => none
    else if 0xE0 ≤ a && a ≤ 0xEF then
      match s with
      | b :: c :: _ =>
        let lo := if a == 0xE0 then 0xA0 else 0x80
        let hi := if a == 0xED then 0x9F else 0xBF
        if lo ≤ b && b ≤ hi && isTail c then
          some (Char.ofNat ((bits a 16 * 64 + bits b 64) * 64 + bits c 64),2)
        else none
      | _ => none
    else if 0xF0 ≤ a && a ≤ 0xF4 then
      match s with
      | b :: c :: d :: _ =>
        let lo := if a == 0xF0 then 0x90 else 0x80
        let hi := if a == 0xF4 then 0x8F else 0xBF
        if lo ≤ b && b ≤ hi && isTail c && isTail d then
          some (Char.ofNat (((bits a 8 * 64 + bits b 64) * 64 + bits c 64) * 64 + bits d 64),3)
        else none
      | _ => none
    else none

def decodeFrom : Nat → Bytes → List Rune
  | _,[] => []
  | k + 1,_ :: s => decodeFrom k s
  | 0,a :: s =>
    match scalar? a s with
    | some (c,k) => .char c :: decodeFrom k s
    | none => .stray a :: decodeFrom 0 s

def decode (s : Bytes) : List Rune := decodeFrom 0 s

def chars? (s : Bytes) : Option (List Char) :=
  (decode s).mapM fun
    | .char c => some c
    | .stray _ => none

def isValid (s : Bytes) : Bool :=
  (decode s).all fun
    | .char _ => true
    | .stray _ => false

def encode (cs : List Char) : Bytes := cs.flatMap String.utf8EncodeChar

def repaired (s : Bytes) : Bytes := encode ((decode s).map Rune.toChar)

end Utf8

end ScriptLauncher
