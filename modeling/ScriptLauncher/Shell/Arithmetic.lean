import ScriptLauncher.Text.Numeral
import ScriptLauncher.Shell.Statement

namespace ScriptLauncher.Shell.Arithmetic

-- Arithmetic of the shell, on integers of 64 bits that wrap around. An expression is carried out
-- while it is read, so a fault in its later part comes after the assignments of its earlier part;
-- the part of a condition that does not count is read and not carried out.

inductive Operator where
  | multiply | divide | remainder | add | subtract | shiftLeft | shiftRight
  | less | lessEqual | greater | greaterEqual | equal | notEqual
  | bitAnd | bitXor | bitOr
  deriving DecidableEq

namespace Operator

def rank : Operator → Nat
  | .multiply | .divide | .remainder => 0
  | .add | .subtract => 1
  | .shiftLeft | .shiftRight => 2
  | .less | .lessEqual | .greater | .greaterEqual => 3
  | .equal | .notEqual => 4
  | .bitAnd => 5
  | .bitXor => 6
  | .bitOr => 7

def ofTruth (b : Bool) : Int64 := if b then 1 else 0

def result? (op : Operator) (a b : Int64) : Option Int64 :=
  match op with
  | .multiply => some (a * b)
  | .divide => if b == 0 then none else some (a / b)
  | .remainder => if b == 0 then none else some (a % b)
  | .add => some (a + b)
  | .subtract => some (a - b)
  | .shiftLeft => some (a <<< b)
  | .shiftRight => some (a >>> b)
  | .less => some (ofTruth (a < b))
  | .lessEqual => some (ofTruth (a ≤ b))
  | .greater => some (ofTruth (b < a))
  | .greaterEqual => some (ofTruth (b ≤ a))
  | .equal => some (ofTruth (a == b))
  | .notEqual => some (ofTruth (a != b))
  | .bitAnd => some (a &&& b)
  | .bitXor => some (a ^^^ b)
  | .bitOr => some (a ||| b)

end Operator

inductive Token where
  | end_
  | number (n : Int64)
  | name (s : Bytes)
  | operator (op : Operator)
  | assign (op : Option Operator)
  | andAnd | orOr | not | complement | question | colon | leftParen | rightParen
  | unknown
  deriving DecidableEq

def isBlank (b : UInt8) : Bool := b == 32 || (9 ≤ b && b ≤ 13)

def digitValue (b : UInt8) : Nat := ((Numeral.hexDigit? (Char.ofNat b.toNat)).getD 99)

def digits (base : Nat) (s : Bytes) : Bytes × Bytes :=
  let ds := s.takeWhile fun b => digitValue b < base
  (ds,s.drop ds.length)

def natValue (base : Nat) (ds : Bytes) : Nat := ds.foldl (fun n b => n * base + digitValue b) 0

-- A number without a sign at the front of a text: decimal, octal behind a zero, hexadecimal behind
-- `0x`.
def unsigned (s : Bytes) : Nat × Bytes :=
  match s with
  | 48 :: x :: rest =>
    if (x == byte 'x' || x == byte 'X') && !(digits 16 rest).1.isEmpty then
      let (ds,rest) := digits 16 rest
      (natValue 16 ds,rest)
    else
      let (ds,rest) := digits 8 s
      (natValue 8 ds,rest)
  | _ =>
    let (ds,rest) := digits 10 s
    (natValue 10 ds,rest)

def minValue : Int := -0x8000000000000000
def maxValue : Int := 0x7FFFFFFFFFFFFFFF

def clamped (n : Int) : Int64 :=
  Int64.ofInt (if n < minValue then minValue else if maxValue < n then maxValue else n)

def signs : List (String × Token) :=
  [("<<=",.assign (some .shiftLeft)),(">>=",.assign (some .shiftRight)),
    ("<<",.operator .shiftLeft),(">>",.operator .shiftRight),("<=",.operator .lessEqual),
    (">=",.operator .greaterEqual),("==",.operator .equal),("!=",.operator .notEqual),
    ("&&",.andAnd),("||",.orOr),("*=",.assign (some .multiply)),("/=",.assign (some .divide)),
    ("%=",.assign (some .remainder)),("+=",.assign (some .add)),("-=",.assign (some .subtract)),
    ("&=",.assign (some .bitAnd)),("^=",.assign (some .bitXor)),("|=",.assign (some .bitOr)),
    ("<",.operator .less),(">",.operator .greater),("=",.assign none),("*",.operator .multiply),
    ("/",.operator .divide),("%",.operator .remainder),("+",.operator .add),
    ("-",.operator .subtract),("&",.operator .bitAnd),("^",.operator .bitXor),
    ("|",.operator .bitOr),("!",.not),("~",.complement),("?",.question),(":",.colon),
    ("(",.leftParen),(")",.rightParen)]

def tokens : Nat → Bytes → List Token
  | 0,_ => []
  | _ + 1,[] => []
  | n + 1,b :: s =>
    if isBlank b then tokens n s
    else if isDigit b then
      let (value,rest) := unsigned (b :: s)
      .number (clamped value) :: tokens n rest
    else if isNameStart b then
      let name := (b :: s).takeWhile isNamePart
      .name name :: tokens n ((b :: s).drop name.length)
    else
      match signs.findSome? fun (spelling,t) => (Bytes.after? (text spelling) (b :: s)).map (t,·) with
      | some (t,rest) => t :: tokens n rest
      | none => [.unknown]

inductive Fault where
  | expression (what : String)
  | number (value : Bytes)

def ofValue (value : Bytes) : Except Fault Int64 :=
  let s := value.dropWhile isBlank
  let (isNegative,digitsOf) := match s with
    | b :: rest => if b == byte '-' then (true,rest) else if b == byte '+' then (false,rest) else (false,s)
    | [] => (false,s)
  let (n,rest) := unsigned digitsOf
  let n : Int := if isNegative then -(n : Int) else n
  let hasDigits := (digitsOf.head?.map isDigit).getD false
  let rest := if hasDigits then rest else value
  if n < minValue || maxValue < n || !(rest.dropWhile isBlank).isEmpty then .error (.number value)
  else .ok (Int64.ofInt n)

structure State where
  rest : List Token
  last : Token
  assigned : List (Bytes × Int64)

abbrev Calculation := StateT State (Except Fault)

def fault {α : Type} (what : String) : Calculation α := throw (.expression what)

def next : Calculation Token := modifyGet fun s =>
  match s.rest with
  | [] => (.end_,s)
  | t :: rest => (t,{ s with rest })

def setLast (t : Token) : Calculation Unit := modify fun s => { s with last := t }

def last : Calculation Token := return (← get).last

section

variable (value : Bytes → Bytes)

def lookUp (name : Bytes) : Calculation Int64 := do
  match (← get).assigned.lookup name with
  | some n => return n
  | none =>
    match ofValue (value name) with
    | .ok n => return n
    | .error f => throw f

def assignTo (name : Bytes) (n : Int64) : Calculation Int64 := do
  modify fun s => { s with assigned := (name,n) :: s.assigned }
  return n

def applied (skips : Bool) (op : Operator) (a b : Int64) : Calculation Int64 := do
  if skips then return b
  else match op.result? a b with
    | some n => return n
    | none => fault "division by zero"

structure Start where
  token : Token
  behind : Token

def start : Calculation Start := do
  let token ← next
  return ⟨token,← next⟩

mutual

def assignment : Nat → Bool → Token → Calculation Int64
  | 0,_,_ => fault "expecting primary"
  | n + 1,skips,token => do
    let behind ← next
    match token,behind with
    | .name name,.assign op =>
      let result ← assignment n skips (← next)
      if skips then return result
      else match op with
        | none => assignTo name result
        | some op => assignTo name (← applied false op (← lookUp value name) result)
    | _,_ => conditional n skips ⟨token,behind⟩

def conditional : Nat → Bool → Start → Calculation Int64
  | 0,_,_ => fault "expecting primary"
  | n + 1,skips,s => do
    let a ← disjunction n skips s
    if (← last) != .question then return a
    else
      let b ← assignment n (skips || a == 0) (← next)
      if (← last) != .colon then fault "expecting ':'"
      let c ← conditional n (skips || a != 0) (← start)
      return if a == 0 then c else b

def disjunction : Nat → Bool → Start → Calculation Int64
  | 0,_,_ => fault "expecting primary"
  | n + 1,skips,s => do
    let a ← conjunction n skips s
    if (← last) != .orOr then return a
    else
      let b ← disjunction n (skips || a != 0) (← start)
      return Operator.ofTruth (a != 0 || b != 0)

def conjunction : Nat → Bool → Start → Calculation Int64
  | 0,_,_ => fault "expecting primary"
  | n + 1,skips,s => do
    let first ← primary n skips s
    let a ← match ← last with
      | .operator op => operations n skips first op 8
      | _ => pure first
    if (← last) != .andAnd then return a
    else
      let b ← conjunction n (skips || a == 0) (← start)
      return Operator.ofTruth (a != 0 && b != 0)

def operations : Nat → Bool → Int64 → Operator → Nat → Calculation Int64
  | 0,_,_,_,_ => fault "expecting primary"
  | n + 1,skips,a,op,limit => do
    let b ← primary n skips (← start)
    let b ← match ← last with
      | .operator tighter =>
        if tighter.rank < op.rank then operations n skips b tighter op.rank else pure b
      | _ => pure b
    let a ← applied skips op a b
    match ← last with
    | .operator another => if another.rank < limit then operations n skips a another limit else return a
    | _ => return a

def primary : Nat → Bool → Start → Calculation Int64
  | 0,_,_ => fault "expecting primary"
  | n + 1,skips,s => do
    match s.token with
    | .leftParen =>
      let result ← assignment n skips s.behind
      if (← last) != .rightParen then fault "expecting ')'"
      setLast (← next)
      return result
    | .number k =>
      setLast s.behind
      return k
    | .name name =>
      setLast s.behind
      if skips then return 0 else lookUp value name
    | .operator .add => primary n skips ⟨s.behind,← next⟩
    | .operator .subtract => return -(← primary n skips ⟨s.behind,← next⟩)
    | .not => return Operator.ofTruth ((← primary n skips ⟨s.behind,← next⟩) == 0)
    | .complement => return ~~~(← primary n skips ⟨s.behind,← next⟩)
    | _ => fault "expecting primary"

end

def evaluate (expression : Bytes) : Except Fault (Int64 × List (Bytes × Int64)) := do
  let all := tokens (expression.length + 1) expression
  let whole : Calculation Int64 := do
    let result ← assignment value (8 * all.length + 8) false (← next)
    if (← last) != .end_ then fault "expecting EOF"
    return result
  let (result,s) ← whole.run { rest := all,last := .end_,assigned := [] }
  return (result,s.assigned.reverse)

end

end ScriptLauncher.Shell.Arithmetic
