import ScriptLauncher.Text.RegexReader
import ScriptLauncher.Tool.Work

namespace ScriptLauncher.Tool.Expression

-- The program that evaluates an expression in its arguments. Values are texts; those that look like
-- whole numbers are numbers where an operation asks for one. A text can be compared with a pattern,
-- from its first character on.

-- What a comparison with a pattern gives: the group, if it has one, or the number of characters.
def compared (s pattern : Bytes) : Except Bytes Bytes :=
  match Regex.read { isExtended := false } pattern with
  | .error problem => .error (text problem.sentence)
  | .ok (regex,groups) =>
    let found := regex.front? s
    if 0 < groups then .ok ((found.bind (·.groups.lookup 1)).getD [])
    else .ok (Bytes.ofNat ((found.map (·.length)).getD 0))

def integer? (s : Bytes) : Option Int :=
  match s with
  | 45 :: digits => (decimal? digits).map fun n => -(n : Int)
  | digits => (decimal? digits).map Int.ofNat

def isNull (s : Bytes) : Bool := s.isEmpty || integer? s == some 0

structure Rest where
  words : List Bytes
  before : Bytes := []

abbrev Evaluation := StateT Rest (Except Bytes)

def problem {α : Type} (message : Bytes) : Evaluation α := throw message

def syntaxProblem {α : Type} (message : Bytes) : Evaluation α := problem (text "syntax error: " ++ message)

def take : Evaluation Bytes := do
  match ← get with
  | ⟨[],before⟩ => syntaxProblem (text "missing argument after " ++ cited before)
  | ⟨word :: words,_⟩ =>
    set (⟨words,word⟩ : Rest)
    return word

def next? (signs : List String) : Evaluation (Option Bytes) := do
  match (← get).words with
  | word :: _ => if signs.any fun s => text s == word then return some (← take) else return none
  | [] => return none

def number (s : Bytes) : Evaluation Int :=
  match integer? s with
  | some n => return n
  | none => problem (text "non-integer argument")

def truth (b : Bool) : Bytes := text (if b then "1" else "0")

def relation (sign a b : Bytes) : Bool :=
  let way : Ordering := match integer? a,integer? b with
    | some m,some n => compare m n
    | _,_ => if a == b then .eq else if Bytes.le a b then .lt else .gt
  let is (s : String) : Bool := sign == text s
  if is "<" then way == .lt
  else if is "<=" then way != .gt
  else if is "=" || is "==" then way == .eq
  else if is "!=" then way != .eq
  else if is ">=" then way != .lt
  else way == .gt

def arithmetic (sign a b : Bytes) : Evaluation Bytes := do
  let m ← number a
  let n ← number b
  if sign == text "+" then return Bytes.ofInt (m + n)
  else if sign == text "-" then return Bytes.ofInt (m - n)
  else if sign == text "*" then return Bytes.ofInt (m * n)
  else if n == 0 then problem (text "division by zero")
  else if sign == text "/" then return Bytes.ofInt (Int.tdiv m n)
  else return Bytes.ofInt (Int.tmod m n)

def ranks : List (List String) :=
  [["|"],["&"],["<","<=","=","==","!=",">=",">"],["+","-"],["*","/","%"],[":"]]

def joined (sign a b : Bytes) : Evaluation Bytes := do
  if sign == text "|" then return if !isNull a then a else if !isNull b then b else text "0"
  else if sign == text "&" then return if isNull a || isNull b then text "0" else a
  else if sign == text ":" then compared a b
  else if [text "+",text "-",text "*",text "/",text "%"].contains sign then arithmetic sign a b
  else return truth (relation sign a b)

mutual

def ranked : Nat → List (List String) → Evaluation Bytes
  | 0,_ => syntaxProblem (text "too many arguments")
  | n + 1,[] => primary n
  | n + 1,signs :: higher => do
    let first ← ranked n higher
    chain n signs higher first

def chain : Nat → List String → List (List String) → Bytes → Evaluation Bytes
  | 0,_,_,value => return value
  | n + 1,signs,higher,value => do
    match ← next? signs with
    | none => return value
    | some sign =>
      let other ← ranked n higher
      chain n signs higher (← joined sign value other)

def primary : Nat → Evaluation Bytes
  | 0 => syntaxProblem (text "too many arguments")
  | n + 1 => do
    let word ← take
    let is (s : String) : Bool := word == text s
    if is "(" then
      let value ← ranked n ranks
      match (← get).words with
      | [] => syntaxProblem (text "expecting ')' after " ++ cited (← get).before)
      | found :: _ =>
        if found == text ")" then
          discard take
          return value
        else syntaxProblem (text "expecting ')' instead of " ++ cited found)
    else if is ")" then syntaxProblem (text "unexpected ')'")
    else if is "+" then take
    else if is "length" then return Bytes.ofNat (← primary n).length
    else if is "match" then
      let s ← primary n
      compared s (← primary n)
    else if is "index" then
      let s ← primary n
      let chars ← primary n
      return Bytes.ofNat ((s.findIdx? chars.contains).map (· + 1) |>.getD 0)
    else if is "substr" then
      let s ← primary n
      let start ← primary n
      let count ← primary n
      return match integer? start,integer? count with
        | some i,some l => if 0 < i && 0 < l then (s.drop (i.toNat - 1)).take l.toNat else []
        | _,_ => []
    else return word

end

def evaluate (words : List Bytes) : Except Bytes Bytes := do
  let (value,rest) ← (ranked (16 * words.length + 16) ranks).run { words }
  match rest.words with
  | [] => return value
  | extra :: _ => .error (text "syntax error: unexpected argument " ++ cited extra)

def expression : Work Unit := do
  let args ← Work.operands
  let args := if args.head? == some (text "--") then args.drop 1 else args
  if args.isEmpty then Work.misused (text "missing operand") 2
  else match evaluate args with
    | .ok value =>
      Work.putLine value
      if isNull value then Work.fails 1
    | .error message => Work.stop message 2

end ScriptLauncher.Tool.Expression
