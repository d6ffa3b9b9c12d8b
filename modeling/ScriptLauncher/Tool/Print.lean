import ScriptLauncher.Process.Format
import ScriptLauncher.Tool.Work

namespace ScriptLauncher.Tool.Print

-- The programs that print their arguments. Unlike the commands of the same names in the shell,
-- `echo` carries out escapes only where it is asked to, and `printf` quotes what it complains
-- about.

open Process (Layout octal control? isOctal)

def isHex (b : UInt8) : Bool := (Numeral.hexDigit? (Char.ofNat b.toNat)).isSome

def hexValue (s : Bytes) : Nat :=
  s.foldl (fun n b => n * 16 + (Numeral.hexDigit? (Char.ofNat b.toNat)).getD 0) 0

-- What stands behind a backslash: bytes and the rest, or the end of all output.
inductive Escape where
  | bytes (value rest : Bytes)
  | ends

-- An escape. A zero in front of octal digits can be one more digit.
def escape (extraZero : Bool) (s : Bytes) : Escape :=
  match s with
  | [] => .bytes [92] []
  | b :: rest =>
    if b == byte 'c' then .ends
    else if extraZero && b == byte '0' then
      let (value,rest) := octal 3 rest
      .bytes [value] rest
    else if isOctal b then
      let (value,rest) := octal 3 s
      .bytes [value] rest
    else if b == byte 'x' then
      let digits := (rest.take 2).takeWhile isHex
      if digits.isEmpty then .bytes [92,b] rest
      else .bytes [UInt8.ofNat (hexValue digits)] (rest.drop digits.length)
    else if b == byte 'e' then .bytes [27] rest
    else match control? b with
      | some c => .bytes [c] rest
      | none => .bytes [92,b] rest

-- A text with its escapes carried out. The flag tells that all output ends here.
def unescape : Nat → Bytes → Bytes × Bool
  | 0,s => (s,false)
  | _ + 1,[] => ([],false)
  | n + 1,b :: s =>
    if b != 92 then
      let (rest,ends) := unescape n s
      (b :: rest,ends)
    else match escape true s with
      | .ends => ([],true)
      | .bytes value rest =>
        let (rest,ends) := unescape n rest
        (value ++ rest,ends)

def isSwitch (word : Bytes) : Bool :=
  match word with
  | 45 :: b :: rest => (b :: rest).all fun c => (text "neE").contains c
  | _ => false

def echo : Work Unit := do
  let args ← Work.operands
  let switches := args.takeWhile isSwitch
  let letters := switches.flatten
  let isBare := letters.contains (byte 'n')
  let carriesOut := (letters.filter fun b => b == byte 'e' || b == byte 'E').getLast? == some (byte 'e')
  let all := Bytes.join [Bytes.space] (args.drop switches.length)
  let (shown,ends) := if carriesOut then unescape (all.length + 1) all else (all,false)
  Work.put (if isBare || ends then shown else shown ++ [Bytes.newline])

abbrev Printing := StateT (List Bytes) Work

def nextArg : Printing (Option Bytes) := modifyGet fun args =>
  match args with
  | [] => (none,[])
  | a :: rest => (some a,rest)

def complain (message : Bytes) : Printing Unit := StateT.lift (Work.complain message)

def checkNumber (word : Bytes) (rest : Option Bytes) : Printing Unit := do
  match rest with
  | none => complain (cited word ++ text ": expected a numeric value")
  | some [] => return
  | some _ => complain (cited word ++ text ": value not completely converted")

def wholeNumber (s : Bytes) : Option (Int × Bytes) :=
  let s := s.dropWhile fun b => b == 32 || (9 ≤ b && b ≤ 13)
  let isNegative := s.head? == some (byte '-')
  let body := match s with
    | b :: rest => if b == byte '-' || b == byte '+' then rest else s
    | [] => s
  let digit (b : UInt8) : Nat := (Numeral.hexDigit? (Char.ofNat b.toNat)).getD 99
  let run (base : Nat) (s : Bytes) : Nat × Bytes :=
    let ds := s.takeWhile fun b => digit b < base
    (ds.foldl (fun n b => n * base + digit b) 0,s.drop ds.length)
  if (body.head?.map digit).getD 99 < 10 then
    let (n,rest) := match body with
      | 48 :: x :: more =>
        if (x == byte 'x' || x == byte 'X') && ((more.head?.map digit).getD 99) < 16 then run 16 more
        else run 8 body
      | 48 :: more => run 8 (48 :: more)
      | _ => run 10 body
    some (if isNegative then -(n : Int) else n,rest)
  else none

def isMark (b : UInt8) : Bool := b == byte '"' || b == byte '\''

def code (rest : Bytes) : Printing Nat := do
  let extra := rest.drop 1
  if !extra.isEmpty then
    StateT.lift (Work.remark (text "warning: " ++ extra ++
      text ": character(s) following character constant have been ignored"))
  return (rest.headD 0).toNat

def integer (least most : Int) : Printing Int := do
  match ← nextArg with
  | none => return 0
  | some [] => return 0
  | some (b :: rest) =>
    let word := b :: rest
    if isMark b && !rest.isEmpty then return (← code rest)
    else match wholeNumber word with
      | none =>
        checkNumber word none
        return 0
      | some (n,rest) =>
        if n < least || most < n then
          complain (cited word ++ text ": Numerical result out of range")
          return if n < least then least else most
        else
          checkNumber word (some rest)
          return n

def fraction : Printing Binary.Value := do
  let zero : Binary.Value := ⟨false,.finite 0 1⟩
  match ← nextArg with
  | none => return zero
  | some [] => return zero
  | some (b :: rest) =>
    let word := b :: rest
    if isMark b && !rest.isEmpty then return ⟨false,.finite (← code rest) 1⟩
    else match Binary.ofText? 64 (word.map fun b => Char.ofNat b.toNat) with
      | none =>
        checkNumber word none
        return zero
      | some (v,rest) =>
        checkNumber word (some (rest.map byte))
        return v

def minInteger : Int := -0x8000000000000000
def maxInteger : Int := 0x7FFFFFFFFFFFFFFF
def maxUnsigned : Int := 0xFFFFFFFFFFFFFFFF

def layout (s : Bytes) : Printing (Layout × Bytes) := do
  let isFlag (b : UInt8) : Bool := Layout.isFlag b || b == byte '\''
  let flags := s.takeWhile isFlag
  let l := Layout.withFlags (flags.filter Layout.isFlag)
  let number (s : Bytes) : Printing (Option Int × Bytes) := do
    match s with
    | 42 :: rest => return (some (← integer (-0x80000000) 0x7FFFFFFF),rest)
    | _ =>
      let digits := s.takeWhile fun b => 48 ≤ b && b ≤ 57
      return ((decimal? digits).map Int.ofNat,s.drop digits.length)
  let (width,s) ← number (s.drop flags.length)
  let l := l.setWidth (width.getD 0)
  match s with
  | 46 :: rest =>
    let (precision,rest) ← number rest
    return (l.setPrecision (precision.getD 0),rest)
  | _ => return (l,s)

-- One conversion. The flag tells that all output ends here.
def conversion (l : Layout) (kind : UInt8) (whole : Bytes) : Printing (Bytes × Bool) := do
  let is (kinds : String) : Bool := (text kinds).contains kind
  if is "s" then return (l.text ((← nextArg).getD []),false)
  else if is "b" then
    let arg := (← nextArg).getD []
    return unescape (arg.length + 1) arg
  else if is "q" then return (named ((← nextArg).getD []),false)
  else if is "c" then
    match ← nextArg with
    | none => return ([],false)
    | some arg => return ({ l with precision := none }.text [arg.headD 0],false)
  else if is "di" then return (l.signed (← integer minInteger maxInteger),false)
  else if is "ouxX" then
    let n ← integer (-maxUnsigned) maxUnsigned
    return (l.unsigned kind (n % (maxUnsigned + 1)).toNat,false)
  else if is "eEfFgG" then return (l.fraction kind (← fraction),false)
  else StateT.lift (Work.stop (whole ++ text ": invalid conversion specification"))

def format : Nat → Bytes → Printing Bool
  | 0,_ => return false
  | _ + 1,[] => return false
  | n + 1,b :: s => do
    let put (data : Bytes) : Printing Unit := StateT.lift (Work.put data)
    if b == 92 then
      match s with
      | 34 :: rest =>
        put [34]
        format n rest
      | _ =>
        match escape false s with
        | .ends => return true
        | .bytes value rest =>
          if s.head? == some (byte 'x') && value.length == 2 then
            StateT.lift (Work.stop (text "missing hexadecimal number in escape"))
          put value
          format n rest
    else if b != byte '%' then
      put [b]
      format n s
    else if s.head? == some (byte '%') then
      put [b]
      format n (s.drop 1)
    else
      let (l,rest) ← layout s
      let rest := rest.dropWhile fun b => (text "hlLjzt").contains b
      match rest with
      | [] => StateT.lift (Work.stop (b :: s ++ text ": invalid conversion specification"))
      | kind :: behind =>
        let (shown,ends) ← conversion l kind (b :: s.take (s.length - behind.length))
        put shown
        if ends then return true else format n behind

def formats (form : Bytes) : Nat → Printing Unit
  | 0 => return
  | n + 1 => do
    let before := (← get).length
    let ends ← format (form.length + 1) form
    let left ← get
    if !ends then
      if left.length == before then
        if let first :: _ := left then
          StateT.lift (Work.remark (text "warning: ignoring excess arguments, starting with " ++ cited first))
      else if !left.isEmpty then formats form n

def printf : Work Unit := do
  let args ← Work.operands
  let args := if args.head? == some (text "--") then args.drop 1 else args
  match args with
  | [] => Work.misused (text "missing operand")
  | form :: args => discard ((formats form (args.length + 1)).run args)

end ScriptLauncher.Tool.Print
