import ScriptLauncher.Text.Bytes

namespace ScriptLauncher.RunId

-- Identifiers of runs: random UUIDs in lower case. Sixteen bytes carry an identifier; six of their
-- bits are fixed and say that the others are random.

def hexDigit (n : Nat) : UInt8 := if n < 10 then UInt8.ofNat (48 + n) else UInt8.ofNat (87 + n)

def hex (b : UInt8) : Bytes := [hexDigit (b.toNat / 16),hexDigit (b.toNat % 16)]

-- The bytes with the fixed bits set: the version in the seventh, the variant in the ninth.
def mark (seed : List UInt8) : List UInt8 :=
  let version := seed.modify 6 fun b => b % 16 + 0x40
  version.modify 8 fun b => b % 64 + 0x80

def groups : List Nat := [4,2,2,2,6]

def cut {α : Type} : List Nat → List α → List (List α)
  | [],_ => []
  | n :: sizes,xs => xs.take n :: cut sizes (xs.drop n)

def ofBytes (seed : List UInt8) : Bytes :=
  Bytes.join (text "-") ((cut groups (mark seed)).map fun group => group.flatMap hex)

def isHex (b : UInt8) : Bool := (48 ≤ b && b ≤ 57) || (97 ≤ b && b ≤ 102)

def isWellFormed (id : Bytes) : Bool :=
  match Bytes.splitOn (byte '-') id with
  | [a,b,c,d,e] =>
    [a,b,c,d,e].map List.length == groups.map (2 * ·) &&
      [a,b,c,d,e].all (·.all isHex) && c.head? == some (byte '4') &&
      (d.head?.map fun v => [byte '8',byte '9',byte 'a',byte 'b'].contains v).getD false
  | _ => false

end ScriptLauncher.RunId
