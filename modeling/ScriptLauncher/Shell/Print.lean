import ScriptLauncher.Process.Format
import ScriptLauncher.Shell.State

namespace ScriptLauncher.Shell.Print

-- What the shell prints by itself: `echo`, which carries out escapes, and `printf`. A format is
-- used again while there are arguments, and takes empty ones and zeros where they are missing.

open Process (Layout octal control? isOctal)

-- An escape in a format: the byte that it stands for, and what is behind it.
def escape (s : Bytes) : UInt8 × Bytes :=
  match s with
  | [] => (92,[])
  | b :: rest =>
    if isOctal b then octal 3 s
    else match control? b with
      | some c => (c,rest)
      | none => if b == byte 'e' then (27,rest) else (92,s)

-- A text with its escapes carried out. The flag tells that all output ends here.
def escaped : Nat → Bytes → Bytes × Bool
  | 0,s => (s,false)
  | _ + 1,[] => ([],false)
  | n + 1,b :: s =>
    if b != 92 then
      let (rest,ends) := escaped n s
      (b :: rest,ends)
    else match s with
      | [] => ([92],false)
      | c :: behind =>
        if c == byte 'c' then ([],true)
        else
          let (value,rest) := if c == byte '0' then octal 3 behind else escape s
          let (rest,ends) := escaped n rest
          (value :: rest,ends)

def unescape (s : Bytes) : Bytes × Bool := escaped (s.length + 1) s

def echo (args : List Bytes) : Bytes :=
  let isBare := args.head? == some (text "-n")
  let words := if isBare then args.drop 1 else args
  let rec written : List Bytes → Bytes × Bool
    | [] => ([],false)
    | [word] => unescape word
    | word :: rest =>
      let (first,ends) := unescape word
      if ends then (first,true)
      else
        let (others,ends) := written rest
        (first ++ Bytes.space :: others,ends)
  let (all,ends) := written words
  if isBare || ends then all else all ++ [Bytes.newline]

-- What is left to print: the arguments, and whether one was not what it should be.
structure Sheet where
  args : List Bytes
  status : Nat := 0

abbrev Printing := StateT Sheet Act

def nextArg : Printing (Option Bytes) := modifyGet fun s =>
  match s.args with
  | [] => (none,s)
  | a :: rest => (some a,{ s with args := rest })

def complain (message : Bytes) : Printing Unit := do
  StateT.lift (Act.warn message)
  modify fun s => { s with status := 1 }

def isBlank (b : UInt8) : Bool := b == 32 || (9 ≤ b && b ≤ 13)

def wholeNumber (s : Bytes) : Option (Int × Bytes) :=
  let s := s.dropWhile isBlank
  let isNegative := s.head? == some (byte '-')
  let body := match s with
    | b :: rest => if b == byte '-' || b == byte '+' then rest else s
    | [] => s
  if (body.head?.map isDigit).getD false then
    let digit (b : UInt8) : Nat := (Numeral.hexDigit? (Char.ofNat b.toNat)).getD 99
    let run (base : Nat) (s : Bytes) : Nat × Bytes :=
      let ds := s.takeWhile fun b => digit b < base
      (ds.foldl (fun n b => n * base + digit b) 0,s.drop ds.length)
    let (n,rest) := match body with
      | 48 :: x :: more =>
        if (x == byte 'x' || x == byte 'X') && ((more.head?.map digit).getD 99) < 16 then run 16 more
        else run 8 body
      | 48 :: more => run 8 (48 :: more)
      | _ => run 10 body
    some (if isNegative then -(n : Int) else n,rest)
  else none

def checkNumber (word : Bytes) (rest : Option Bytes) : Printing Unit := do
  match rest with
  | none => complain (word ++ text ": expected numeric value")
  | some [] => return
  | some _ => complain (word ++ text ": not completely converted")

-- The number that an argument stands for. A quotation mark gives the code of the byte behind it.
def integer (least most : Int) : Printing Int := do
  match ← nextArg with
  | none => return 0
  | some word =>
    match word with
    | [] => return 0
    | b :: rest =>
      if b == byte '"' || b == byte '\'' then return ((rest.headD 0).toNat : Int)
      else match wholeNumber word with
        | none =>
          checkNumber word none
          return 0
        | some (n,rest) =>
          if n < least || most < n then
            complain (word ++ text ": Numerical result out of range")
            return if n < least then least else most
          else
            checkNumber word (some rest)
            return n

def minInteger : Int := -0x8000000000000000
def maxInteger : Int := 0x7FFFFFFFFFFFFFFF
def maxUnsigned : Int := 0xFFFFFFFFFFFFFFFF

def fraction : Printing Binary.Value := do
  let zero : Binary.Value := ⟨false,.finite 0 1⟩
  match ← nextArg with
  | none => return zero
  | some word =>
    match word with
    | [] => return zero
    | b :: rest =>
      if b == byte '"' || b == byte '\'' then return ⟨false,.finite (rest.headD 0).toNat 1⟩
      else match Binary.ofText? 53 (word.map fun b => Char.ofNat b.toNat) with
        | none =>
          checkNumber word none
          return zero
        | some (v,rest) =>
          checkNumber word (some (rest.map byte))
          return v

def digits (s : Bytes) : Int := (s.takeWhile isDigit).foldl (fun n b => n * 10 + (b.toNat - 48)) 0

def layout (s : Bytes) : Printing (Layout × Bytes) := do
  let flags := s.takeWhile Layout.isFlag
  let l := Layout.withFlags flags
  let s := s.drop flags.length
  let isStar (s : Bytes) : Bool := s.head? == some (byte '*')
  let number (s : Bytes) : Printing (Int × Bytes) := do
    if isStar s then return (← integer minInteger maxInteger,s.drop 1)
    else
      let run := s.takeWhile fun b => isDigit b || b == byte '*'
      return (digits run,s.drop run.length)
  let (width,s) ← number s
  let l := l.setWidth width
  match s with
  | b :: rest =>
    if b == byte '.' then
      let (precision,rest) ← number rest
      return (l.setPrecision precision,rest)
    else return (l,s)
  | [] => return (l,s)

-- One conversion. The flag tells that all output ends here.
def conversion (l : Layout) (kind : UInt8) (whole : Bytes) : Printing (Bytes × Bool) := do
  let is (kinds : String) : Bool := (text kinds).contains kind
  if is "s" then return (l.text ((← nextArg).getD []),false)
  else if is "b" then
    let (shown,ends) := unescape ((← nextArg).getD [])
    return (l.text shown,ends)
  else if is "c" then
    let arg := (← nextArg).getD []
    return ({ l with precision := none }.text [arg.headD 0],false)
  else if is "di" then return (l.signed (← integer minInteger maxInteger),false)
  else if is "ouxX" then
    let n ← integer (-maxUnsigned) maxUnsigned
    return (l.unsigned kind (n % (maxUnsigned + 1)).toNat,false)
  else if is "eEfFgG" then return (l.fraction kind (← fraction),false)
  else
    StateT.lift (Act.fail (whole ++ text ": invalid directive"))

def format : Nat → Bytes → Printing Bool
  | 0,_ => return false
  | _ + 1,[] => return false
  | n + 1,b :: s => do
    let put (data : Bytes) : Printing Unit := StateT.lift (Act.out data)
    if b == 92 then
      let (value,rest) := escape s
      put [value]
      format n rest
    else if b != byte '%' then
      put [b]
      format n s
    else if s.head? == some (byte '%') then
      put [b]
      format n (s.drop 1)
    else
      let (l,rest) ← layout s
      match rest with
      | [] => StateT.lift (Act.fail (text "missing format character"))
      | kind :: behind =>
        let whole := b :: s.take (s.length - behind.length)
        let (shown,ends) ← conversion l kind whole
        put shown
        if ends then return true else format n behind

def formats (form : Bytes) : Nat → Printing Unit
  | 0 => return
  | n + 1 => do
    let before := (← get).args.length
    let ends ← format (form.length + 1) form
    let left := (← get).args.length
    if !ends && left != before && left != 0 then formats form n

def printf (args : List Bytes) : Act Nat := do
  match args with
  | [] => Act.fail (text "usage: printf format [arg ...]")
  | form :: args =>
    let (_,sheet) ← (formats form (args.length + 1)).run { args }
    return sheet.status

end ScriptLauncher.Shell.Print
