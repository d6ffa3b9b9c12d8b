import ScriptLauncher.Shell.Word

namespace ScriptLauncher.Shell

-- Statements from tokens. Which words are keywords, and whether line ends matter, depends on what
-- has been read, so every rule says what to look for before it asks for a token. A script is read
-- one complete statement at a time: what comes later is not looked at before the first one has run.

inductive Extent where
  | line
  | body
  | optional
  deriving DecidableEq

namespace Reading

def documents (nested : Nested) : Reading Unit := do
  let awaited := (← get).awaited
  modify fun r => { r with awaited := [] }
  awaited.forM fun a => do
    let style := if a.isExpanded then Style.double else .single
    let (word,_) ← wordParts nested (.document a.terminator a.stripsTabs) style
    modify fun r => { r with documents := r.documents.set a.number word }

-- A redirection from its sign on; `stream` is the number in front of it.
def redirectionSign (stream : Option Nat) : Reading Unit := do
  let sign ← takeJoined
  if sign == some (byte '>') then
    let stream := stream.getD 1
    let redirection : Redirection ←
      if ← acceptChar '>' then pure (.file stream .append [])
      else if ← acceptChar '|' then pure (.file stream .force [])
      else if ← acceptChar '&' then pure (.duplicateNamed stream [])
      else pure (.file stream .write [])
    modify fun r => { r with redirection }
  else
    let stream := stream.getD 0
    if ← acceptChar '<' then
      let stripsTabs ← acceptChar '-'
      modify fun r => { r with redirection := .document stream true 0,stripsTabs }
    else
      let redirection : Redirection ←
        if ← acceptChar '&' then pure (.duplicateNamed stream [])
        else if ← acceptChar '>' then pure (.file stream .both [])
        else pure (.file stream .read [])
      modify fun r => { r with redirection }

def found (token : Token) : Reading Token := do
  modify fun r => { r with last := token }
  return token

def wordToken (nested : Nested) : Reading Token := do
  let (word,isQuoted) ← wordParts nested .word .plain
  let next ← peekJoined
  let number := (Word.plain? word).filter fun t => t.length ≤ 1 && t.all isDigit
  match number,next == some (byte '>') || next == some (byte '<') with
  | some digits,true =>
    redirectionSign (digits.head?.map fun b => b.toNat - 48)
    found .redirection
  | _,_ =>
    modify fun r => { r with word,isQuoted }
    found .word

def skipRemark : Reader → Reader
  | r => match r.input with
    | p :: below => { r with input := { p with rest := p.rest.dropWhile (· != Bytes.newline) } :: below }
    | [] => r

def rawToken (nested : Nested) : Nat → Reading Token
  | 0 => found .eof
  | n + 1 => do
    if (← get).isPushedBack then
      modify fun r => { r with isPushedBack := false }
      return (← get).last
    else match ← peekJoined with
      | none => found .eof
      | some c =>
        let advance : Reading Unit := modify Reader.advance
        if c == 32 || c == 9 then
          advance
          rawToken nested n
        else if c == byte '#' then
          modify skipRemark
          rawToken nested n
        else if c == Bytes.newline then
          advance
          countLine
          found .newline
        else if c == byte '&' then
          advance
          found (if ← acceptChar '&' then .andAnd else .ampersand)
        else if c == byte '|' then
          advance
          found (if ← acceptChar '|' then .orOr else .bar)
        else if c == byte ';' then
          advance
          found (if ← acceptChar ';' then .doubleSemicolon else .semicolon)
        else if c == byte '(' then
          advance
          found .leftParen
        else if c == byte ')' then
          advance
          found .rightParen
        else wordToken nested

def pastNewlines (nested : Nested) : Nat → Token → Reading Token
  | 0,token => return token
  | n + 1,token => do
    if token == .newline then
      documents nested
      check {}
      pastNewlines nested n (← rawToken nested (n + 1))
    else return token

def token (nested : Nested) : Nat → Reading Token
  | 0 => found .eof
  | n + 1 => do
    let before := (← get).checks
    let first ← rawToken nested (← get).bound
    let token' ← if before.newlines then pastNewlines nested (← get).bound first else pure first
    let r ← get
    let checks : Checks :=
      { newlines := before.newlines,keywords := before.keywords || r.checks.keywords
        shorthands := before.shorthands || r.checks.shorthands }
    check {}
    if token' != .word || r.isQuoted then return token'
    else
      let plain := Word.plain? r.word
      match if checks.keywords then plain.bind Keyword.ofBytes? else none with
      | some k => found (.keyword k)
      | none =>
        let meaning? := if checks.shorthands then
            plain.bind fun name =>
              if r.input.any (·.shorthand == some name) then none
              else (r.shorthands.lookup name).map fun meaning => (name,meaning)
          else none
        match meaning? with
        | some (name,meaning) =>
          let last := meaning.getLast?
          let continues := last == some 32 || last == some 9
          if !meaning.isEmpty then
            modify fun r =>
              { r with
                input := ⟨meaning,some name,continues⟩ :: r.input,bound := r.bound + meaning.length }
          -- The checks of the first word hold for what takes its place.
          check checks
          token nested n
        | none => return .word

end Reading

-- The reader of statements at some depth of nesting: how lists inside are read, and how many steps
-- a loop may take.
structure Depth where
  list : Extent → Reading (Option Statement)
  bound : Nat

namespace Depth

open Reading

-- The statements of a compound statement. There are none only at the end of the script, and then
-- the token that has to follow is missing too.
def body (k : Depth) : Reading Statement := do
  return (← k.list .body).getD (.simple 0 [] [] [])

def nested (k : Depth) : Nested :=
  { inParens := do
      let s ← k.list .optional
      -- The list ends only at a token, which is still there.
      let t := (← get).last
      if t != .rightParen then unexpected (some .rightParen)
      modify fun r => { r with isPushedBack := false }
      return s
    bare := k.list .optional }

def token (k : Depth) : Reading Token := Reading.token k.nested k.bound

def tokenUnder (k : Depth) (checks : Checks) : Reading Token := do
  check checks
  k.token

def expect (k : Depth) (wanted : Token) : Reading Unit := do
  if (← k.token) != wanted then unexpected (some wanted)

-- What may stand at the start of a statement.
def commandChecks : Checks := { newlines := true,keywords := true,shorthands := true }

def redirectionTarget (k : Depth) : Reading Redirection := do
  let redirection := (← get).redirection
  let isDocument := match redirection with
    | .document _ _ _ => true
    | _ => false
  if isDocument then check { terminator := true }
  if (← k.token) != .word then unexpected none
  let r ← get
  match redirection with
  | .document stream _ _ =>
    let number := r.documents.length
    let awaited : Awaited := ⟨number,Word.letters r.word,r.stripsTabs,!r.isQuoted⟩
    set { r with documents := r.documents ++ [[]],awaited := r.awaited ++ [awaited] }
    return .document stream (!r.isQuoted) number
  | .duplicateNamed stream _ =>
    match Word.plain? r.word with
    | some [b] =>
      if isDigit b then return .duplicate stream (some (b.toNat - 48))
      else if b == byte '-' then return .duplicate stream none
      else return .duplicateNamed stream r.word
    | _ => return .duplicateNamed stream r.word
  | .file stream how _ => return .file stream how r.word
  | .duplicate stream source => return .duplicate stream source

def redirections (k : Depth) : Nat → Reading (List Redirection)
  | 0 => return []
  | n + 1 => do
    if (← k.token) == .redirection then
      let first ← k.redirectionTarget
      return first :: (← redirections k n)
    else
      pushBack
      return []

def words (k : Depth) : Nat → Reading (List Word)
  | 0 => return []
  | n + 1 => do
    if (← k.token) == .word then
      let word := (← get).word
      return word :: (← words k n)
    else return []

-- What follows a condition: its statements, and other conditions.
def branches (k : Depth) : Nat → Reading Statement
  | 0 => unexpected none
  | n + 1 => do
    let test ← k.body
    k.expect (.keyword .then_)
    let yes ← k.body
    let next ← k.token
    if next == .keyword .elif then return .branch test yes (some (← branches k n))
    else if next == .keyword .else_ then return .branch test yes (some (← k.body))
    else
      pushBack
      return .branch test yes none

def loop (k : Depth) (awaited : Bool) : Reading Statement := do
  let test ← k.body
  k.expect (.keyword .do_)
  let body ← k.body
  return .loop awaited test body

def each (k : Depth) (line : Nat) : Reading Statement := do
  let first ← k.token
  let r ← get
  match Word.plain? r.word,first == .word && !r.isQuoted with
  | some name,true =>
    if !isName name then problem (text "Bad for loop variable")
    let words ←
      if (← k.tokenUnder commandChecks) == .keyword .in_ then
        let words ← k.words k.bound
        let last := (← get).last
        if last != .newline && last != .semicolon then unexpected none
        pure words
      else
        if (← get).last != .semicolon then pushBack
        pure [Word.allArguments]
    check commandChecks
    k.expect (.keyword .do_)
    return .each line name words (← k.body)
  | _,_ => problem (text "Bad for loop variable")

def patterns (k : Depth) : Nat → Reading (List Word)
  | 0 => return []
  | n + 1 => do
    let pattern := (← get).word
    if (← k.token) == .bar then
      discard k.token
      return pattern :: (← patterns k n)
    else return [pattern]

def arms (k : Depth) : Nat → Reading (List Arm)
  | 0 => return []
  | n + 1 => do
    let first ← k.tokenUnder { newlines := true,keywords := true }
    if first == .keyword .esac then return []
    if first == .leftParen then discard k.token
    let patterns ← k.patterns k.bound
    if (← get).last != .rightParen then unexpected (some .rightParen)
    let body ← k.list .optional
    let arm : Arm := .mk patterns body
    let next ← k.tokenUnder { newlines := true,keywords := true }
    if next == .keyword .esac then return [arm]
    else if next == .doubleSemicolon then return arm :: (← arms k n)
    else unexpected (some .doubleSemicolon)

def choice (k : Depth) (line : Nat) : Reading Statement := do
  if (← k.token) != .word then unexpected (some .word)
  let subject := (← get).word
  check commandChecks
  k.expect (.keyword .in_)
  return .choice line subject (← k.arms k.bound)

def specialNames : List Bytes :=
  [".",":","break","continue","eval","exec","exit","export","local","readonly","return","set",
    "shift","times","trap","unset"].map text

structure Simple where
  assignments : List Word := []
  words : List Word := []
  redirections : List Redirection := []

inductive SimpleEnd where
  | statement (parts : Simple)
  | function (name : Bytes)

def simpleParts (k : Depth) : Nat → Bool → Simple → Reading SimpleEnd
  | 0,_,parts => return .statement parts
  | n + 1,atStart,parts => do
    let next ← k.tokenUnder { shorthands := atStart }
    if next == .word then
      let word := (← get).word
      if atStart && Word.isAssignment word then
        simpleParts k n true { parts with assignments := word :: parts.assignments }
      else simpleParts k n false { parts with words := word :: parts.words }
    else if next == .redirection then
      let redirection ← k.redirectionTarget
      simpleParts k n atStart { parts with redirections := redirection :: parts.redirections }
    else match next,parts with
      | .leftParen,⟨[],[word],[]⟩ =>
        k.expect .rightParen
        match Word.plain? word with
        | some name =>
          if !isName name || specialNames.contains name then problem (text "Bad function name")
          return .function name
        | none => problem (text "Bad function name")
      | _,_ =>
        pushBack
        return .statement parts

def withRedirections (k : Depth) (line : Nat) (statement : Statement) : Reading Statement := do
  check { keywords := true,shorthands := true }
  let redirections ← k.redirections k.bound
  if redirections.isEmpty then return statement
  else return match statement with
    | .subshell line body _ => .subshell line body redirections
    | _ => .redirected line statement redirections

def command (k : Depth) : Nat → Reading Statement
  | 0 => unexpected none
  | n + 1 => do
    let line := (← get).line
    let closed (statement : Statement) (last : Keyword) : Reading Statement := do
      k.expect (.keyword last)
      k.withRedirections line statement
    match ← k.token with
    | .keyword .if_ => closed (← k.branches k.bound) .fi
    | .keyword .while_ => closed (← k.loop false) .done
    | .keyword .until_ => closed (← k.loop true) .done
    | .keyword .for_ => closed (← k.each line) .done
    | .keyword .case => k.withRedirections line (← k.choice line)
    | .keyword .leftBrace => closed (← k.body) .rightBrace
    | .leftParen =>
      let body ← k.body
      k.expect .rightParen
      k.withRedirections line (.subshell line body [])
    | .word | .redirection =>
      pushBack
      let line := (← get).line
      match ← k.simpleParts k.bound true {} with
      | .statement parts =>
        return .simple line parts.assignments.reverse parts.words.reverse parts.redirections.reverse
      | .function name =>
        check commandChecks
        let line := (← get).line
        return .function line name (← command k n)
    | _ => unexpected none

def stages (k : Depth) : Nat → Reading (List Statement)
  | 0 => return []
  | n + 1 => do
    if (← k.token) == .bar then
      check commandChecks
      let stage ← k.command k.bound
      return stage :: (← stages k n)
    else
      pushBack
      return []

def pipeline (k : Depth) : Reading Statement := do
  let isNegated := (← k.token) == .keyword .not
  if isNegated then check { keywords := true,shorthands := true } else pushBack
  let first ← k.command k.bound
  let others ← k.stages k.bound
  let whole := if others.isEmpty then first else .pipeline false (first :: others)
  return if isNegated then .negation whole else whole

def chain (k : Depth) : Nat → Statement → Reading Statement
  | 0,s => return s
  | n + 1,s => do
    let sign ← k.token
    if sign == .andAnd || sign == .orOr then
      check commandChecks
      let next ← k.pipeline
      chain k n (if sign == .andAnd then .both s next else .either s next)
    else
      pushBack
      return s

def inBackground (line : Nat) : Statement → Statement
  | .pipeline _ stages => .pipeline true stages
  | .redirected line body redirections => .background line body redirections
  | s => .background line s []

def joined : Option Statement → Statement → Statement
  | none,s => s
  | some before,s => .sequence before s

-- Statements one after the other. None for a line means that the script is at its end; the flag
-- tells that from a line without statements.
def items (k : Depth) (extent : Extent) : Nat → Option Statement → Bool → Reading (Option Statement × Bool)
  | 0,before,_ => return (before,false)
  | n + 1,before,mayEnd => do
    let isLine := extent == .line
    let first ← k.tokenUnder { commandChecks with newlines := !isLine }
    if first == .newline then
      documents k.nested
      return (before,false)
    else if first == .eof then
      documents k.nested
      pushBack
      modify fun r => { r with last := .eof }
      return (before,before.isNone && isLine)
    else
      pushBack
      if mayEnd && !isLine && first.endsList then return (before,false)
      let line := (← get).line
      let s ← k.chain k.bound (← k.pipeline)
      let next ← k.token
      let whole := joined before (if next == .ampersand then inBackground line s else s)
      if next == .newline || next == .eof then
        pushBack
        items k extent n (some whole) true
      else if next == .ampersand || next == .semicolon then items k extent n (some whole) true
      else if isLine then unexpected none
      else
        pushBack
        return (some whole,false)

end Depth

def Reading.list : Nat → Extent → Reading (Option Statement)
  | 0,_ => Reading.problem (text "nested too deeply")
  | n + 1,extent => do
    let k : Depth := ⟨Reading.list n,n⟩
    return (← k.items extent n none (extent == .optional)).1

inductive Step where
  | end_
  | statement (s : Option Statement)

def Reading.step : Reading Step := do
  modify fun r => { r with isPushedBack := false,checks := {},awaited := [] }
  let n := 2 * (← get).bound + 10000
  let k : Depth := ⟨Reading.list n,n⟩
  match ← k.items .line n none false with
  | (_,true) => return .end_
  | (s,false) => return .statement s

end ScriptLauncher.Shell
