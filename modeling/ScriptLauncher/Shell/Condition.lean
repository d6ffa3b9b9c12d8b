import ScriptLauncher.Process.Site

namespace ScriptLauncher.Shell.Condition

-- Conditions of the shell: what `test` decides about texts, numbers and files. The words of a
-- condition are looked at from left to right; a word that could be a sign is an operand where only
-- an operand makes sense.

open Process (Site)

inductive Sign where
  | unary
  | binary
  | not
  | and
  | or
  | leftParen
  | rightParen
  deriving DecidableEq

def unarySigns : List Bytes :=
  ["-r","-w","-x","-e","-f","-d","-c","-b","-p","-u","-g","-k","-s","-t","-z","-n","-h","-L",
    "-S","-O","-G"].map text

def binarySigns : List Bytes :=
  ["=","!=","<",">","-eq","-ne","-ge","-gt","-le","-lt","-nt","-ot","-ef"].map text

def sign? (word : Bytes) : Option Sign :=
  if unarySigns.contains word then some .unary
  else if binarySigns.contains word then some .binary
  else if word == text "!" then some .not
  else if word == text "-a" then some .and
  else if word == text "-o" then some .or
  else if word == text "(" then some .leftParen
  else if word == text ")" then some .rightParen
  else none

inductive Head where
  | nothing
  | operand
  | sign (s : Sign)
  deriving DecidableEq

def head : List Bytes → Head
  | [] => .nothing
  | word :: rest =>
    match sign? word with
    | none => .operand
    | some .unary =>
      let isOperand : Bool := match rest with
        | [] => true
        | [_] => false
        | second :: _ => sign? second == some .binary
      if isOperand then .operand else .sign .unary
    | some .leftParen => if rest.isEmpty then .operand else .sign .leftParen
    | some s => .sign s

def number (word : Bytes) : Except Bytes Int :=
  let isBlank (b : UInt8) : Bool := b == 32 || (9 ≤ b && b ≤ 13)
  let s := word.dropWhile isBlank
  let body := match s with
    | b :: rest => if b == byte '-' || b == byte '+' then rest else s
    | [] => s
  let digits := body.takeWhile fun b => 48 ≤ b && b ≤ 57
  let n : Int := digits.foldl (fun n b => n * 10 + (b.toNat - 48)) 0
  let rest := (body.drop digits.length).dropWhile isBlank
  let n := if s.head? == some (byte '-') then -n else n
  if digits.isEmpty || !rest.isEmpty || n < -0x8000000000000000 || 0x7FFFFFFFFFFFFFFF < n then
    .error (text "Illegal number: " ++ word)
  else .ok n

def binary (site : Site) (a sign b : Bytes) : Except Bytes Bool :=
  let is (s : String) : Bool := sign == text s
  let compared (holds : Int → Int → Bool) : Except Bytes Bool := do
    return holds (← number a) (← number b)
  if is "=" then .ok (a == b)
  else if is "!=" then .ok (a != b)
  else if is "<" then .ok (a != b && Bytes.le a b)
  else if is ">" then .ok (a != b && Bytes.le b a)
  else if is "-eq" then compared fun m n => m == n
  else if is "-ne" then compared fun m n => m != n
  else if is "-lt" then compared fun m n => decide (m < n)
  else if is "-le" then compared fun m n => decide (m ≤ n)
  else if is "-gt" then compared fun m n => decide (n < m)
  else if is "-ge" then compared fun m n => decide (n ≤ m)
  else if is "-nt" then .ok (site.age a b fun m n => decide (n < m))
  else if is "-ot" then .ok (site.age a b fun m n => decide (m < n))
  else .ok (site.isSame a b)

abbrev Decision := Except Bytes (Bool × List Bytes)

def problem {α : Type} (word : Bytes) (message : String) : Except Bytes α :=
  .error (if word.isEmpty then text message else word ++ text ": " ++ text message)

mutual

def disjunction (site : Site) : Nat → Bool → List Bytes → Decision
  | 0,_,_ => problem [] "too many words"
  | n + 1,before,words => do
    let (holds,words) ← conjunction site n true words
    if head (words.drop 1) == .sign .or then disjunction site n (before || holds) (words.drop 2)
    else return (before || holds,words)

def conjunction (site : Site) : Nat → Bool → List Bytes → Decision
  | 0,_,_ => problem [] "too many words"
  | n + 1,before,words => do
    let (holds,words) ← negation site n words
    if head (words.drop 1) == .sign .and then conjunction site n (before && holds) (words.drop 2)
    else return (before && holds,words)

def negation (site : Site) : Nat → List Bytes → Decision
  | 0,_ => problem [] "too many words"
  | n + 1,words => do
    if head words == .sign .not then
      let rest := if head (words.drop 1) == .nothing then words else words.drop 1
      if rest.length < words.length then
        let (holds,words) ← negation site n rest
        return (!holds,words)
      else return (true,words)
    else primary site n words

def primary (site : Site) : Nat → List Bytes → Decision
  | 0,_ => problem [] "too many words"
  | n + 1,words =>
    match head words,words with
    | .nothing,_ => return (false,words)
    | .sign .leftParen,_ :: inside => do
      if head inside == .sign .rightParen then return (false,inside)
      else
        let (holds,words) ← disjunction site n false inside
        if head (words.drop 1) == .sign .rightParen then return (holds,words.drop 1)
        else problem [] "closing paren expected"
    | .sign .unary,sign :: rest =>
      match rest with
      | [] => problem sign "argument expected"
      | operand :: _ => return (site.unary sign operand,rest)
    | _,first :: rest =>
      match rest with
      | sign :: second =>
        if sign? sign == some .binary then
          match second with
          | [] => problem sign "argument expected"
          | operand :: _ => do return (← binary site first sign operand,second)
        else return (!first.isEmpty,words)
      | [] => return (!first.isEmpty,words)
    | _,[] => return (false,words)

end

-- Decides all words. Few words are first tried in the way that leaves no doubt.
def decide_ (site : Site) : Nat → List Bytes → Except Bytes Bool
  | 0,_ => problem [] "too many words"
  | n + 1,words => do
    let whole (words : List Bytes) : Except Bytes Bool := do
      let (holds,words) ← disjunction site (4 * words.length + 8) false words
      match words with
      | word :: _ :: _ => problem word "unexpected operator"
      | _ => return holds
    match words with
    | [] => return false
    | [a,sign,b] =>
      if sign? sign == some .binary then binary site a sign b
      else if a == text "(" && b == text ")" then whole [sign]
      else if a == text "!" then return !(← decide_ site n [sign,b])
      else whole words
    | [a,b,c,d] =>
      if a == text "(" && d == text ")" then whole [b,c]
      else if a == text "!" then return !(← decide_ site n [b,c,d])
      else whole words
    | _ => whole words

def evaluate (site : Site) (words : List Bytes) : Except Bytes Bool := decide_ site 4 words

end ScriptLauncher.Shell.Condition
