import ScriptLauncher.Text.Bytes

namespace ScriptLauncher.Shell

-- Statements of the shell as they are written. A word is a list of parts, in which a byte is either
-- escaped, and then stands for itself wherever the word is used, or plain. Quotation marks stay in
-- the word, because they decide later how an expansion between them is taken.

inductive Substitution where
  | fallback
  | alternative
  | demand
  | assign
  deriving DecidableEq

inductive Opening where
  | read
  | write
  | force
  | append
  | both
  deriving DecidableEq

mutual

inductive Part where
  | letter (value : UInt8) (escaped : Bool)
  | mark
  | parameter (name : Bytes) (use : Use)
  | arithmetic (expression : List Part)
  | output (body : Option Statement)

inductive Use where
  | value
  | length
  | substitute (how : Substitution) (counting : Bool) (word : List Part)
  | trim (fromEnd longest : Bool) (pattern : List Part)
  | malformed

inductive Redirection where
  | file (stream : Nat) (how : Opening) (target : List Part)
  | duplicate (stream : Nat) (source : Option Nat)
  | duplicateNamed (stream : Nat) (source : List Part)
  | document (stream : Nat) (isExpanded : Bool) (number : Nat)

inductive Arm where
  | mk (patterns : List (List Part)) (body : Option Statement)

inductive Statement where
  | simple (line : Nat) (assignments words : List (List Part)) (redirections : List Redirection)
  | pipeline (isBackground : Bool) (stages : List Statement)
  | redirected (line : Nat) (body : Statement) (redirections : List Redirection)
  | subshell (line : Nat) (body : Statement) (redirections : List Redirection)
  | background (line : Nat) (body : Statement) (redirections : List Redirection)
  | both (first second : Statement)
  | either (first second : Statement)
  | sequence (first second : Statement)
  | negation (body : Statement)
  | branch (test yes : Statement) (no : Option Statement)
  | loop (awaited : Bool) (test body : Statement)
  | each (line : Nat) (name : Bytes) (words : List (List Part)) (body : Statement)
  | choice (line : Nat) (subject : List Part) (arms : List Arm)
  | function (line : Nat) (name : Bytes) (body : Statement)

end

abbrev Word := List Part

def isNameStart (b : UInt8) : Bool := (65 ≤ b && b ≤ 90) || (97 ≤ b && b ≤ 122) || b == 95

def isDigit (b : UInt8) : Bool := 48 ≤ b && b ≤ 57

def isNamePart (b : UInt8) : Bool := isNameStart b || isDigit b

def isName : Bytes → Bool
  | [] => false
  | b :: s => isNameStart b && s.all isNamePart

namespace Word

def plain? : Word → Option Bytes
  | [] => some []
  | .letter b false :: rest => (plain? rest).map (b :: ·)
  | _ => none

def letters (word : Word) : Bytes := word.filterMap fun
  | .letter b _ => some b
  | _ => none

def front : Word → Bytes
  | .letter b false :: rest => b :: front rest
  | _ => []

def isAssignment (word : Word) : Bool :=
  match Bytes.cut (byte '=') (front word) with
  | some (name,_) => isName name
  | none => false

def allArguments : Word := [.mark,.parameter (text "@") .value,.mark]

end Word

end ScriptLauncher.Shell
