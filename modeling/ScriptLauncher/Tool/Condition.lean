import ScriptLauncher.Process.Site
import ScriptLauncher.Tool.Work

namespace ScriptLauncher.Tool.Condition

-- The program that decides conditions about texts, numbers and files. How many words there are
-- decides first on their meaning; only longer conditions are read with the signs that join them.

open Process (Site)

def binarySigns : List Bytes :=
  ["=","==","!=","<",">","-eq","-ne","-ge","-gt","-le","-lt","-nt","-ot","-ef"].map text

def isBinary (word : Bytes) : Bool := binarySigns.contains word

def isUnaryShape (word : Bytes) : Bool := word.length == 2 && word.head? == some (byte '-')

structure Question where
  site : Site
  words : List Bytes
  last : Bytes

abbrev Asking := StateT Question (Except Bytes)

def problem {α : Type} (message : Bytes) : Asking α := throw message

def missing {α : Type} : Asking α := do problem (text "missing argument after " ++ cited (← get).last)

def words : Asking (List Bytes) := return (← get).words

def advance (count : Nat) : Asking Unit := modify fun q => { q with words := q.words.drop count }

def number (word : Bytes) : Asking Int := do
  let isBlank (b : UInt8) : Bool := b == 32 || b == 9
  let s := word.dropWhile isBlank
  let body := match s with
    | b :: rest => if b == byte '-' || b == byte '+' then rest else s
    | [] => s
  let digits := body.takeWhile fun b => 48 ≤ b && b ≤ 57
  match decimal? digits,(body.drop digits.length).dropWhile isBlank with
  | some n,[] => return if s.head? == some (byte '-') then -(n : Int) else n
  | _,_ => problem (text "invalid integer " ++ cited word)

def binary (a sign b : Bytes) : Asking Bool := do
  let site := (← get).site
  let is (s : String) : Bool := sign == text s
  let compared (holds : Int → Int → Bool) : Asking Bool := do
    let m ← number a
    return holds m (← number b)
  if is "=" || is "==" then return a == b
  else if is "!=" then return a != b
  else if is "<" then return a != b && Bytes.le a b
  else if is ">" then return a != b && Bytes.le b a
  else if is "-eq" then compared fun m n => m == n
  else if is "-ne" then compared fun m n => m != n
  else if is "-lt" then compared fun m n => decide (m < n)
  else if is "-le" then compared fun m n => decide (m ≤ n)
  else if is "-gt" then compared fun m n => decide (n < m)
  else if is "-ge" then compared fun m n => decide (n ≤ m)
  else if is "-nt" then return site.age a b fun m n => decide (n < m)
  else if is "-ot" then return site.age a b fun m n => decide (m < n)
  else return site.isSame a b

def takeBinary : Asking Bool := do
  match ← words with
  | a :: sign :: b :: _ =>
    advance 3
    binary a sign b
  | _ => missing

def unarySigns : Bytes := text "abcdefghknoprstuwxzGLNOS"

def takeUnary : Asking Bool := do
  match ← words with
  | sign :: rest =>
    if !(sign.drop 1).any (unarySigns.contains ·) || sign == text "-a" || sign == text "-o" then
      problem (cited sign ++ text ": unary operator expected")
    else match rest with
      | operand :: _ =>
        advance 2
        return (← get).site.unary sign operand
      | [] => missing
  | [] => missing

def takeOne : Asking Bool := do
  match ← words with
  | word :: _ =>
    advance 1
    return !word.isEmpty
  | [] => missing

def takeTwo : Asking Bool := do
  match ← words with
  | word :: _ =>
    if word == text "!" then
      advance 1
      return !(← takeOne)
    else if isUnaryShape word then takeUnary
    else missing
  | [] => missing

mutual

def counted : Nat → Nat → Asking Bool
  | 0,_ => missing
  | n + 1,count => do
    let ws ← words
    match count,ws with
    | 1,_ => takeOne
    | 2,_ => takeTwo
    | 3,_ => three n
    | 4,first :: rest =>
      if first == text "!" then
        advance 1
        return !(← three n)
      else if first == text "(" && (rest.drop 2).head? == some (text ")") then
        advance 1
        let holds ← takeTwo
        advance 1
        return holds
      else disjunction n
    | _,_ => disjunction n

def three : Nat → Asking Bool
  | 0 => missing
  | n + 1 => do
    match ← words with
    | a :: b :: c :: _ =>
      if isBinary b then takeBinary
      else if a == text "!" then
        advance 1
        return !(← takeTwo)
      else if a == text "(" && c == text ")" then
        advance 1
        let holds ← takeOne
        advance 1
        return holds
      else if b == text "-a" || b == text "-o" then disjunction n
      else problem (cited b ++ text ": binary operator expected")
    | _ => missing

def disjunction : Nat → Asking Bool
  | 0 => missing
  | n + 1 => do
    let holds ← conjunction n
    if (← words).head? == some (text "-o") then
      advance 1
      let other ← disjunction n
      return holds || other
    else return holds

def conjunction : Nat → Asking Bool
  | 0 => missing
  | n + 1 => do
    let holds ← term n
    if (← words).head? == some (text "-a") then
      advance 1
      let other ← conjunction n
      return holds && other
    else return holds

def term : Nat → Asking Bool
  | 0 => missing
  | n + 1 => do
    match ← words with
    | [] => missing
    | word :: rest =>
      if word == text "!" then
        advance 1
        return !(← term n)
      else if word == text "(" then
        if rest.isEmpty then missing
        else
          advance 1
          let inside := ((rest.drop 1).takeWhile (· != text ")")).length + 1
          let holds ← counted n (if 4 < inside then rest.length else inside)
          match ← words with
          | [] => problem (text "')' expected")
          | found :: _ =>
            if found != text ")" then problem (text "')' expected, found " ++ cited found)
            else
              advance 1
              return holds
      else if 2 ≤ rest.length && isBinary (rest.headD []) then takeBinary
      else if isUnaryShape word then takeUnary
      else takeOne

end

def decide_ (site : Site) (ws : List Bytes) : Except Bytes Bool := do
  if ws.isEmpty then return false
  else
    let (holds,rest) ← (counted (8 * ws.length + 8) ws.length).run ⟨site,ws,ws.getLastD []⟩
    match rest.words with
    | [] => return holds
    | extra :: _ => .error (text "extra argument " ++ cited extra)

-- The program; with the name of a bracket its last word is one too.
def test (isBracket : Bool) : Work Unit := do
  let args ← Work.operands
  let p ← Work.process
  if isBracket && args.getLast? != some (text "]") then Work.stop (text "missing ']'") 2
  else
    let ws := if isBracket then args.dropLast else args
    match decide_ ⟨(← get).system,p.cwd⟩ ws with
    | .ok holds => Work.fails (if holds then 0 else 1)
    | .error message => Work.stop message 2

end ScriptLauncher.Tool.Condition
