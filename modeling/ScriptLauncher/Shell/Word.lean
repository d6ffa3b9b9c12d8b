import ScriptLauncher.Shell.Reader

namespace ScriptLauncher.Shell

-- Reading words. A word is read byte by byte under a style of quotation, which changes with the
-- quotation marks and inside braces and arithmetic; the styles that are to come back form a stack.
-- The statements of a command substitution are read by the reader of statements, which is passed
-- in.

inductive Style where
  | plain
  | double
  | single
  | arithmetic
  deriving DecidableEq

structure Level where
  style : Style
  isDouble : Bool := false
  braces : Nat := 0
  doubleBraces : Nat := 0
  isInner : Bool := false
  isOfBrace : Bool := false
  parens : Nat := 0

structure Draft where
  level : Level
  outer : List Level := []
  parts : List Part := []
  enclosing : List ((List Part → Part) × List Part) := []
  isQuoted : Bool := false

inductive Purpose where
  | word
  | document (terminator : Bytes) (stripsTabs : Bool)

def Purpose.isWord : Purpose → Bool
  | .word => true
  | .document _ _ => false

namespace Draft

def push (d : Draft) (part : Part) : Draft := { d with parts := part :: d.parts }

def letter (d : Draft) (b : UInt8) : Draft := d.push (.letter b false)

def escaped (d : Draft) (b : UInt8) : Draft := d.push (.letter b true)

def setLevel (d : Draft) (change : Level → Level) : Draft := { d with level := change d.level }

def enclose (d : Draft) (make : List Part → Part) : Draft :=
  { d with parts := [],enclosing := (make,d.parts) :: d.enclosing }

def close (d : Draft) : Draft :=
  match d.enclosing with
  | (make,before) :: rest => { d with parts := make d.parts.reverse :: before,enclosing := rest }
  | [] => d

def pushLevel (d : Draft) (level : Level) : Draft := { d with level,outer := d.level :: d.outer }

def popLevel (d : Draft) : Draft :=
  match d.outer with
  | level :: outer => { d with level,outer }
  | [] => d

-- A quotation mark. In a text below the line it is no part of the text.
def quotation (d : Draft) (purpose : Purpose) : Draft :=
  if purpose.isWord then d.push .mark else d

def toggleInner (d : Draft) : Draft :=
  if 0 < d.level.braces then d.setLevel fun l => { l with isInner := !l.isInner } else d

def endQuotation (d : Draft) (purpose : Purpose) (b : UInt8) : Draft :=
  if !purpose.isWord && d.level.braces == 0 then d.letter b
  else
    let d := if d.level.doubleBraces == 0 then
        d.setLevel fun l => { l with style := .plain,isDouble := false }
      else d
    let d := { d with isQuoted := true }
    (if b == byte '"' then d.toggleInner else d).quotation purpose

def closeBrace (d : Draft) : Draft :=
  if d.level.isInner || d.level.braces == 0 then d.letter (byte '\x7d')
  else
    let left := d.level.braces - 1
    let d := d.setLevel fun l => { l with braces := left }
    let d :=
      if left == 0 && d.level.isOfBrace then d.popLevel
      else d.setLevel fun l => { l with doubleBraces := l.doubleBraces - 1 }
    d.close

def openBrace (d : Draft) (style : Style) (make : List Part → Part) : Draft :=
  let d :=
    if style != d.level.style || d.level.isInner then
      d.pushLevel { style,isOfBrace := true,isDouble := style != .plain }
    else d
  (d.setLevel fun l =>
    { l with
      braces := l.braces + 1
      doubleBraces := if l.isDouble then l.doubleBraces + 1 else l.doubleBraces }).enclose make

-- A byte behind a backslash. In double quotation most bytes keep the backslash.
def behindBackslash (d : Draft) (purpose : Purpose) (b : UInt8) : Draft :=
  let isOpen := d.level.braces != 0
  let loses :=
    b == byte '\\' || b == byte '\x60' || b == byte '$' ||
      (b == byte '"' && (purpose.isWord || isOpen)) || (b == byte '\x7d' && isOpen)
  let d := if d.level.isDouble && !loses then d.escaped (byte '\\') else d
  { d.escaped b with isQuoted := true }

end Draft

def isSpecialParameter (b : UInt8) : Bool := isDigit b || (text "!#$*-?@").contains b

def isBreak (b : UInt8) : Bool := (text "<>();&| \t").contains b

def substitution? (b : UInt8) : Option Substitution :=
  [(byte '-',Substitution.fallback),(byte '+',.alternative),(byte '?',.demand),(byte '=',.assign)].lookup b

structure Nested where
  inParens : Reading (Option Statement)
  bare : Reading (Option Statement)

namespace Reading

-- A parameter in braces up to the byte that tells its use: its name, or none, and whether its
-- length is wanted.
def bracedName (bound : Nat) : Reading (Option Bytes × Bool) := do
  match ← peekJoined with
  | none => return (none,false)
  | some c =>
    if isNameStart c then return (some (← takeWhile isNamePart bound),false)
    else if isDigit c then return (some (← takeWhile isDigit bound),false)
    else if c == byte '\x7d' then return (none,false)
    else
      modify Reader.advance
      if c == byte '#' then
        match ← peekJoined with
        | none => return (some [c],false)
        | some next =>
          if isNameStart next then return (some (← takeWhile isNamePart bound),true)
          else if isDigit next then return (some (← takeWhile isDigit bound),true)
          else
            let before ← get
            modify Reader.advance
            if next != byte '\x7d' && (← peekJoined) == some (byte '\x7d') then
              return if isSpecialParameter next then (some [next],true) else (none,false)
            else
              set before
              return (some [c],false)
      else return if isSpecialParameter c then (some [c],false) else (none,false)

def use (d : Draft) (name : Bytes) : Reading Draft := do
  let style := if d.level.style == .arithmetic then Style.double else d.level.style
  match ← takeJoined with
  | none => return d.openBrace style fun _ => .parameter name .malformed
  | some c =>
    if c == byte '\x7d' then return d.push (.parameter name .value)
    else if c == byte '%' || c == byte '#' then
      let longest ← accept c
      return d.openBrace .plain fun pattern => .parameter name (.trim (c == byte '%') longest pattern)
    else
      let counting := c == byte ':'
      let sign ← if counting then takeJoined else pure (some c)
      match sign.bind substitution? with
      | some how => return d.openBrace style fun word => .parameter name (.substitute how counting word)
      | none => return d.openBrace style fun _ => .parameter name .malformed

def braced (bound : Nat) (d : Draft) : Reading Draft := do
  let style := if d.level.style == .arithmetic then Style.double else d.level.style
  match ← bracedName bound with
  | (none,_) => return d.openBrace style fun _ => .parameter [] .malformed
  | (some name,false) => use d name
  | (some name,true) =>
    if (← peekJoined) == some (byte '\x7d') then
      return d.openBrace style fun _ => .parameter name .length
    else return d.openBrace style fun _ => .parameter name .malformed

-- Statements in parentheses. Texts below the line that they ask for end with them.
def inParens (nested : Nested) : Reading (Option Statement) := do
  let awaited := (← get).awaited
  modify fun r => { r with awaited := [] }
  let body ← nested.inParens
  modify fun r => { r with awaited }
  return body

def backQuoted (isDouble : Bool) : Nat → Reading Bytes
  | 0 => return []
  | n + 1 => do
    match ← takeJoined with
    | none => problem (text "EOF in backquote substitution")
    | some c =>
      if c == byte '\x60' then return []
      else if c == byte '\\' then
        match ← take with
        | none => problem (text "EOF in backquote substitution")
        | some next =>
          let hides :=
            next == byte '\\' || next == byte '\x60' || next == byte '$' ||
              (isDouble && next == byte '"')
          let rest ← backQuoted isDouble n
          return if hides then next :: rest else c :: next :: rest
      else
        if c == Bytes.newline then countLine
        return c :: (← backQuoted isDouble n)

def inBackQuotes (nested : Nested) (isDouble : Bool) : Reading (Option Statement) := do
  let inner ← backQuoted isDouble (← get).bound
  let outer ← get
  set { outer with
    input := [⟨inner,none,false⟩],line := 1,awaited := [],isPushedBack := false
    checks := {} }
  let body ← nested.bare
  modify fun r => { outer with documents := r.documents }
  return body

def dollar (nested : Nested) (bound : Nat) (d : Draft) : Reading Draft := do
  if (← get).checks.terminator then return d.letter (byte '$')
  else match ← peekJoined with
    | none => return d.letter (byte '$')
    | some c =>
      if c == byte '(' then
        modify Reader.advance
        if ← acceptChar '(' then
          return (d.pushLevel { style := .arithmetic,isDouble := true }).enclose .arithmetic
        else return d.push (.output (← inParens nested))
      else if c == byte '\x7b' then
        modify Reader.advance
        braced bound d
      else if isNameStart c then
        return d.push (.parameter (← takeWhile isNamePart bound) .value)
      else if isSpecialParameter c then
        modify Reader.advance
        return d.push (.parameter [c] .value)
      else return d.letter (byte '$')

-- Whether a text below the line ends here; if so, its terminator is taken.
def documentEnds (purpose : Purpose) (style : Style) : Reading Bool := do
  match purpose with
  | .word => return false
  | .document terminator stripsTabs =>
    if style != .single then discard peekJoined
    if stripsTabs then
      modify fun r => match r.settle with
        | { input := p :: below,.. } =>
          { r.settle with input := { p with rest := p.rest.dropWhile (· == 9) } :: below }
        | r => r
    let r ← get
    match Bytes.after? terminator r.remaining with
    | none => return false
    | some [] =>
      set { r with input := [⟨[],none,false⟩],line := r.line + 1 }
      return true
    | some (b :: rest) =>
      if b == Bytes.newline then
        set { r with input := [⟨rest,none,false⟩],line := r.line + 1 }
        return true
      else return false

def scan (nested : Nested) (purpose : Purpose) : Nat → Bool → Draft → Reading Draft
  | 0,_,d => return d
  | n + 1,startsLine,d => do
    if startsLine then
      if ← documentEnds purpose d.level.style then return d
    let style := d.level.style
    match ← if style == .single then peek else peekJoined with
    | none => return d
    | some c =>
      let proceed (d : Draft) : Reading Draft := do
        modify Reader.advance
        scan nested purpose n false d
      if c == Bytes.newline then
        if style == .plain && d.level.braces == 0 then return d
        else
          modify Reader.advance
          countLine
          scan nested purpose n true (d.letter c)
      else match style with
        | .single =>
          if c == byte '\'' then proceed (d.endQuotation purpose c)
          else proceed (if purpose.isWord || d.level.isDouble then d.escaped c else d.letter c)
        | _ =>
          if c == byte '\\' then
            modify Reader.advance
            match ← take with
            | none => scan nested purpose n false (d.escaped c)
            | some b => scan nested purpose n false (d.behindBackslash purpose b)
          else if c == byte '\x60' then
            modify Reader.advance
            if (← get).checks.terminator then
              scan nested purpose n false { d.letter c with isQuoted := true }
            else
              scan nested purpose n false (d.push (.output (← inBackQuotes nested d.level.isDouble)))
          else if c == byte '$' then
            modify Reader.advance
            scan nested purpose n false (← dollar nested n d)
          else if c == byte '\x7d' then proceed d.closeBrace
          else match style with
            | .plain =>
              if c == byte '\'' then
                proceed ((d.setLevel fun l => { l with style := .single }).quotation purpose)
              else if c == byte '"' then
                let d := d.setLevel fun l => { l with style := .double,isDouble := true }
                proceed (d.toggleInner.quotation purpose)
              else if isBreak c && d.level.braces == 0 then return d
              else proceed (d.letter c)
            | .arithmetic =>
              if c == byte '(' then
                proceed ((d.setLevel fun l => { l with parens := l.parens + 1 }).letter c)
              else if c == byte ')' then
                if 0 < d.level.parens then
                  proceed ((d.setLevel fun l => { l with parens := l.parens - 1 }).letter c)
                else
                  modify Reader.advance
                  if ← acceptChar ')' then scan nested purpose n false d.popLevel.close
                  else scan nested purpose n false (d.letter c)
              else proceed (d.letter c)
            | _ =>
              if c == byte '"' then proceed (d.endQuotation purpose c)
              else proceed (d.escaped c)

def wordParts (nested : Nested) (purpose : Purpose) (style : Style) :
    Reading (Word × Bool) := do
  let level : Level := { style,isDouble := style == .double }
  let d ← scan nested purpose (← get).bound true { level }
  if d.level.style == .arithmetic then problem (text "Missing '))'")
  if d.level.style != .plain && purpose.isWord then problem (text "Unterminated quoted string")
  if d.level.braces != 0 then problem (text "Missing '\x7d'")
  return (d.parts.reverse,d.isQuoted)

end Reading

end ScriptLauncher.Shell
