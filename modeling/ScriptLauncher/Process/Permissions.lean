import ScriptLauncher.Text.Bytes

namespace ScriptLauncher.Process.Permissions

-- Permissions as a number of three octal digits, and as the letters in which they are changed.

def octal? (word : Bytes) : Option Nat :=
  if !word.isEmpty && word.all fun b => 48 ≤ b && b ≤ 55 then
    some (word.foldl (fun n b => n * 8 + (b.toNat - 48)) 0)
  else none

def whose (b : UInt8) : Option Nat :=
  [(byte 'u',0o700),(byte 'g',0o070),(byte 'o',0o007),(byte 'a',0o777)].lookup b

-- The permission that a letter means, for everyone. Whether something may be entered or carried out
-- can depend on what it is.
def what (mode : Nat) (isDirectory : Bool) (b : UInt8) : Option Nat :=
  if b == byte 'X' then some (if isDirectory || mode &&& 0o111 != 0 then 0o111 else 0)
  else [(byte 'r',0o444),(byte 'w',0o222),(byte 'x',0o111),(byte 's',0),(byte 't',0)].lookup b

def actions (isDirectory : Bool) (places : Nat) : Nat → Bytes → Nat → Option Nat
  | 0,_,mode => some mode
  | _ + 1,[],mode => some mode
  | n + 1,sign :: rest,mode =>
    let letters := rest.takeWhile fun b => (what mode isDirectory b).isSome
    let bits := (letters.filterMap (what mode isDirectory)).foldl (· ||| ·) 0 &&& places
    let kept := mode - (mode &&& places)
    let behind := rest.drop letters.length
    if sign == byte '+' then actions isDirectory places n behind (mode ||| bits)
    else if sign == byte '-' then actions isDirectory places n behind (mode - (mode &&& bits))
    else if sign == byte '=' then actions isDirectory places n behind (kept ||| bits)
    else none

-- Permissions after a change in letters. Where nobody is named, all are meant, but for those bits
-- that the mask holds back.
def change? (isDirectory : Bool) (mask : Nat) (word : Bytes) (mode : Nat) : Option Nat :=
  (Bytes.splitOn (byte ',') word).foldl (fun before clause =>
    before.bind fun mode =>
      let who := clause.takeWhile fun b => (whose b).isSome
      let named := (who.filterMap whose).foldl (· ||| ·) 0
      let places := if who.isEmpty then 0o777 - (0o777 &&& mask) else named
      let rest := clause.drop who.length
      if rest.isEmpty then none else actions isDirectory places (rest.length + 1) rest mode) (some mode)

def letters (digit : Nat) : Bytes :=
  (if digit &&& 4 != 0 then text "r" else []) ++ (if digit &&& 2 != 0 then text "w" else []) ++
    (if digit &&& 1 != 0 then text "x" else [])

def describe (mask : Nat) : Bytes :=
  let left := 0o777 - (0o777 &&& mask)
  text "u=" ++ letters (left / 64) ++ text ",g=" ++ letters (left / 8 % 8) ++ text ",o=" ++ letters (left % 8)

end ScriptLauncher.Process.Permissions
