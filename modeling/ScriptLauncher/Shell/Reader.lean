import ScriptLauncher.Shell.Statement

namespace ScriptLauncher.Shell

-- The text of a script while it is read. Shorthands put their meaning in front of what is left, so
-- the rest is a stack of texts; a shorthand is not taken again inside its own meaning. Texts that
-- stand below the line of their statement are read at the end of that line.

inductive Keyword where
  | not | case | do_ | done | elif | else_ | esac | fi | for_ | if_ | in_ | then_ | until_ | while_
  | leftBrace | rightBrace
  deriving DecidableEq

namespace Keyword

def all : List Keyword :=
  [.not,.case,.do_,.done,.elif,.else_,.esac,.fi,.for_,.if_,.in_,.then_,.until_,.while_,
    .leftBrace,.rightBrace]

def spelling : Keyword → String
  | .not => "!"
  | .case => "case"
  | .do_ => "do"
  | .done => "done"
  | .elif => "elif"
  | .else_ => "else"
  | .esac => "esac"
  | .fi => "fi"
  | .for_ => "for"
  | .if_ => "if"
  | .in_ => "in"
  | .then_ => "then"
  | .until_ => "until"
  | .while_ => "while"
  | .leftBrace => "\x7b"
  | .rightBrace => "\x7d"

def ofBytes? (word : Bytes) : Option Keyword := all.find? fun k => text k.spelling == word

end Keyword

inductive Token where
  | eof | newline | semicolon | ampersand | andAnd | orOr | bar | leftParen | rightParen | doubleSemicolon
  | redirection
  | word
  | keyword (k : Keyword)
  deriving DecidableEq

namespace Token

def description : Token → Bytes
  | .eof => text "end of file"
  | .newline => text "newline"
  | .semicolon => text "\";\""
  | .ampersand => text "\"&\""
  | .andAnd => text "\"&&\""
  | .orOr => text "\"||\""
  | .bar => text "\"|\""
  | .leftParen => text "\"(\""
  | .rightParen => text "\")\""
  | .doubleSemicolon => text "\";;\""
  | .redirection => text "redirection"
  | .word => text "word"
  | .keyword k => text "\"" ++ text k.spelling ++ text "\""

def endsList : Token → Bool
  | .eof | .rightParen | .doubleSemicolon => true
  | .keyword k =>
    [Keyword.do_,.done,.elif,.else_,.esac,.fi,.then_,.rightBrace].contains k
  | _ => false

end Token

structure Checks where
  newlines : Bool := false
  keywords : Bool := false
  shorthands : Bool := false
  terminator : Bool := false

structure Awaited where
  number : Nat
  terminator : Bytes
  stripsTabs : Bool
  isExpanded : Bool

structure Portion where
  rest : Bytes
  shorthand : Option Bytes := none
  continues : Bool := false

structure Problem where
  message : Bytes
  line : Nat

structure Reader where
  input : List Portion
  bound : Nat
  line : Nat := 1
  shorthands : List (Bytes × Bytes) := []
  isPushedBack : Bool := false
  last : Token := .eof
  word : Word := []
  isQuoted : Bool := false
  redirection : Redirection := .duplicate 0 none
  stripsTabs : Bool := false
  checks : Checks := {}
  awaited : List Awaited := []
  documents : List Word := []

abbrev Reading := StateT Reader (Except Problem)

namespace Reader

def ofText (script : Bytes) (shorthands : List (Bytes × Bytes)) (documents : List Word) : Reader :=
  { input := [⟨script,none,false⟩],bound := script.length + 2,shorthands,documents }

def size (r : Reader) : Nat := r.input.foldl (fun n p => n + p.rest.length) 0

def settle : Reader → Reader
  | r =>
    let rec leave : List Portion → Bool → List Portion × Bool
      | ⟨[],_,more⟩ :: next :: below,seen => leave (next :: below) (seen || more)
      | portions,seen => (portions,seen)
    let (input,seen) := leave r.input false
    { r with input,checks := if seen then { r.checks with shorthands := true } else r.checks }

def peek? (r : Reader) : Option UInt8 := (r.input.head?).bind fun p => p.rest.head?

def advance (r : Reader) : Reader :=
  match r.input with
  | p :: below => { r with input := { p with rest := p.rest.drop 1 } :: below }
  | [] => r

def remaining (r : Reader) : Bytes :=
  match r.input with
  | [p] => p.rest
  | portions => portions.flatMap (·.rest)

def joinLines : Nat → Reader → Reader
  | 0,r => r
  | n + 1,r =>
    let r := r.settle
    match r.input with
    | ⟨92 :: 10 :: rest,name,more⟩ :: below =>
      joinLines n { r with input := ⟨rest,name,more⟩ :: below,line := r.line + 1 }
    | _ => r

end Reader

namespace Reading

def problem {α : Type} (message : Bytes) : Reading α := do
  throw ⟨text "Syntax error: " ++ message,(← get).line⟩

def peek : Reading (Option UInt8) := do
  let r := (← get).settle
  set r
  return r.peek?

def take : Reading (Option UInt8) := do
  let b ← peek
  modify Reader.advance
  return b

def peekJoined : Reading (Option UInt8) := do
  let r := (← get).settle
  let r := match r.input with
    | ⟨92 :: 10 :: _,_,_⟩ :: _ => r.joinLines r.bound
    | _ => r
  set r
  return r.peek?

def takeJoined : Reading (Option UInt8) := do
  let b ← peekJoined
  modify Reader.advance
  return b

def accept (b : UInt8) : Reading Bool := do
  if (← peekJoined) == some b then
    modify Reader.advance
    return true
  else return false

def acceptChar (c : Char) : Reading Bool := accept (byte c)

def countLine : Reading Unit := modify fun r => { r with line := r.line + 1 }

def pushBack : Reading Unit := modify fun r => { r with isPushedBack := true }

def check (checks : Checks) : Reading Unit := modify fun r => { r with checks }

def unexpected {α : Type} (wanted : Option Token) : Reading α := do
  let found := (← get).last.description ++ text " unexpected"
  problem (match wanted with
    | some token => found ++ text " (expecting " ++ token.description ++ text ")"
    | none => found)

def takeWhile (holds : UInt8 → Bool) : Nat → Reading Bytes
  | 0 => return []
  | n + 1 => do
    match ← peekJoined with
    | some b =>
      if holds b then
        modify Reader.advance
        return b :: (← takeWhile holds n)
      else return []
    | none => return []

end Reading

end ScriptLauncher.Shell
