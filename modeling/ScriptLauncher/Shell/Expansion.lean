import ScriptLauncher.Shell.Arithmetic
import ScriptLauncher.Shell.Fields
import ScriptLauncher.Shell.State

namespace ScriptLauncher.Shell

-- Expansion of words: parameters, arithmetic, the output of commands, and home directories. What an
-- expansion gives is a list of spans, so that fields are made only when all of a word is known.

open Process (System Ending)

structure Place where
  isTested : Bool := false
  isLast : Bool := false

structure Kernel where
  run : Statement → Place → Act Nat
  execute : Process → Bytes → System → Ending × System
  bound : Nat
  output : Statement → Act (Bytes × Nat)

structure Mode where
  isFull : Bool := false
  isQuoted : Bool := false
  splitsText : Bool := false
  isAssignment : Bool := false

def optionLetters : Bytes := text "pubaCEVvxsnmiIfe"

def parameter? (sh : Session) (m : Mode) (name : Bytes) : Option (List Glyph) :=
  let solid (s : Bytes) : List Glyph := s.map fun b => .letter b m.isQuoted
  let joined : Option (List Glyph) :=
    let staysApart := m.isFull && (if m.isQuoted then name == text "@" else (sh.value? (text "IFS")).isSome)
    let separator : Option Glyph :=
      if staysApart then some .border else sh.separators.head?.map fun b => .letter b m.isQuoted
    let pieces := sh.arguments.map solid
    some (match separator with
      | some g => (pieces.intersperse [g]).flatten
      | none => pieces.flatten)
  let index (digits : Bytes) : Option (List Glyph) :=
    match digits.foldl (fun n b => n * 10 + (b.toNat - 48)) 0 with
    | 0 => some (solid sh.name)
    | n + 1 => sh.arguments[n]?.map solid
  match name with
  | [b] =>
    if b == byte '?' then some (solid (Bytes.ofNat sh.status))
    else if b == byte '$' then some (solid (Bytes.ofNat sh.root))
    else if b == byte '#' then some (solid (Bytes.ofNat sh.arguments.length))
    else if b == byte '!' then sh.lastJob.map fun n => solid (Bytes.ofNat n)
    else if b == byte '-' then some (solid (optionLetters.filter sh.options.contains))
    else if b == byte '@' || b == byte '*' then joined
    else if isDigit b then index name
    else (sh.value? name).map solid
  | b :: _ => if isDigit b then index name else (sh.value? name).map solid
  | [] => none

def home? (sh : Session) (m : Mode) (behind : Word) : Option (Bytes × Nat) :=
  let rec named : Word → Option Bytes
    | [] => some []
    | .letter b false :: rest =>
      if b == Bytes.slash || (m.isAssignment && b == byte ':') then some []
      else (named rest).map (b :: ·)
    | _ => none
  match named behind with
  | none => none
  | some [] => (sh.value? (text "HOME")).map fun dir => (dir,0)
  | some user =>
    ([("root","/root"),("daemon","/usr/sbin"),("nobody","/nonexistent")].find? fun (name,_) =>
      text name == user).map fun (_,dir) => (text dir,user.length)

def regionOf (sh : Session) (m : Mode) (name : Bytes) : Splitting :=
  if !m.isQuoted then .atSeparators
  else if name == text "@" && !sh.arguments.isEmpty && m.isFull then .atBorders
  else .none

structure Progress where
  atTilde : Bool := false
  isInner : Bool := false
  skipped : Nat := 0

def notSet (name : Bytes) (message : Bytes) : Act (List Span) := Act.fail (name ++ text ": " ++ message)

def calculate (expression : Bytes) : Act Bytes := do
  let sh ← Act.shell
  match Arithmetic.evaluate sh.value expression with
  | .ok (n,assigned) =>
    assigned.forM fun (name,value) => Act.assign name (Bytes.ofInt value.toInt)
    return Bytes.ofInt n.toInt
  | .error (.expression what) =>
    Act.fail (text "arithmetic expression: " ++ text what ++ text ": \"" ++ expression ++ text "\"")
  | .error (.number value) => Act.badNumber value

-- A value without what a pattern takes from one of its ends: the least or the most that fits. A
-- pattern never takes from more than one argument; from the front that is the first one. What is
-- behind a part that is taken from the end goes with it.
def trimmed (fromEnd longest : Bool) (p : Pattern) (value : List Glyph) : List Glyph :=
  let isInside (g : Glyph) : Bool := match g with
    | .border => false
    | _ => true
  let first := value.takeWhile isInside
  let fits (part : List Glyph) : Bool := p.matches_ (Span.letters part)
  let counts := List.range (first.length + 1)
  match fromEnd,longest with
  | false,false => ((counts.find? fun n => fits (first.take n)).map value.drop).getD value
  | false,true =>
    if fits first then []
    else ((counts.reverse.find? fun n => fits (first.take n)).map value.drop).getD value
  | true,true => ((counts.find? fun n => fits (first.drop n)).map value.take).getD value
  | true,false =>
    let all := (List.range (value.length + 1)).reverse
    ((all.find? fun n => fits ((value.drop n).takeWhile isInside)).map value.take).getD value

mutual

def expand (k : Kernel) (m : Mode) : Progress → Word → Act (List Span)
  | _,[] => return []
  | at_,part :: rest => do
    if 0 < at_.skipped then expand k m { at_ with skipped := at_.skipped - 1 } rest
    else match part with
      | .letter b escaped =>
        let sh ← Act.shell
        match if at_.atTilde && b == byte '~' && !escaped then home? sh m rest else none with
        | some (dir,count) =>
          let others ← expand k m { at_ with atTilde := false,skipped := count } rest
          return ⟨dir.map fun b => .letter b true,.none,false⟩ :: others
        | none =>
          let splits := m.splitsText && !m.isQuoted && !at_.isInner && !escaped
          let atTilde := m.isAssignment && !escaped && (b == byte ':' || b == byte '=')
          let others ← expand k m { at_ with atTilde } rest
          return Span.consText (.letter b escaped) (if splits then .atSeparators else .none) others
      | .mark =>
        -- All arguments in quotation marks of their own leave nothing where there are none.
        let isAll := match rest with
          | .parameter name .value :: .mark :: _ => name == text "@" && !at_.isInner
          | _ => false
        let others ← expand k m { at_ with atTilde := false,isInner := !at_.isInner } rest
        if isAll then return dropFirstMark others
        else return Span.consText .mark .none others
      | .parameter name use =>
        let first ← expandUse k { m with isQuoted := m.isQuoted || at_.isInner,splitsText := false } name use
        return first ++ (← expand k m { at_ with atTilde := false } rest)
      | .arithmetic expression =>
        let inner ← expand k {} {} expression
        let value ← calculate (Span.flat inner)
        let isQuoted := m.isQuoted || at_.isInner
        let others ← expand k m { at_ with atTilde := false } rest
        return ⟨value.map fun b => .letter b isQuoted,if isQuoted then .none else .atSeparators,false⟩ :: others
      | .output body =>
        let isQuoted := m.isQuoted || at_.isInner
        let written ← match body with
          | some s => do
            let (written,status) ← k.output s
            Act.modifyShell fun sh => { sh with innerStatus := status }
            pure written
          | none => pure []
        let value := ((written.filter (· != 0)).reverse.dropWhile (· == Bytes.newline)).reverse
        let others ← expand k m { at_ with atTilde := false } rest
        return ⟨value.map fun b => .letter b isQuoted,if isQuoted then .none else .atSeparators,false⟩ :: others
where
  dropFirstMark : List Span → List Span
    | [] => []
    | ⟨.mark :: glyphs,splitting,true⟩ :: rest => ⟨glyphs,splitting,true⟩ :: rest
    | span :: rest => span :: dropFirstMark rest

def expandUse (k : Kernel) (m : Mode) (name : Bytes) : Use → Act (List Span)
  | .malformed => Act.fail (text "Bad substitution")
  | .value => do
    let sh ← Act.shell
    match parameter? sh m name with
    | some value => return [⟨value,regionOf sh m name,false⟩]
    | none => if sh.option 'u' then notSet name (text "parameter not set") else return []
  | .length => do
    let sh ← Act.shell
    match parameter? sh m name with
    | none =>
      if sh.option 'u' then notSet name (text "parameter not set")
      else return [⟨(text "0").map fun b => .letter b m.isQuoted,regionOf sh m name,false⟩]
    | some value =>
      return [⟨(Bytes.ofNat value.length).map fun b => .letter b m.isQuoted,regionOf sh m name,false⟩]
  | .trim fromEnd longest word => do
    let sh ← Act.shell
    match parameter? sh m name with
    | none => if sh.option 'u' then notSet name (text "parameter not set") else return []
    | some value =>
      let inner ← expand k {} { atTilde := true } word
      let pattern := Span.pattern (inner.flatMap (·.glyphs))
      return [⟨trimmed fromEnd longest pattern value,regionOf sh m name,false⟩]
  | .substitute how counting word => do
    let sh ← Act.shell
    let value := (parameter? sh m name).filter fun v => !counting || !v.isEmpty
    let inWord : Mode := { m with splitsText := true,isAssignment := false }
    match how,value with
    | .alternative,none => return [⟨[],if m.isQuoted then .none else .atSeparators,false⟩]
    | .alternative,some _ => expand k inWord { atTilde := true } word
    | _,some value => return [⟨value,regionOf sh m name,false⟩]
    | .fallback,none => expand k inWord { atTilde := true } word
    | .demand,none =>
      let message ← expand k {} { atTilde := true } word
      let said := Span.flat message
      notSet name (if !word.isEmpty then said
        else if counting then text "parameter not set or null" else text "parameter not set")
    | .assign,none =>
      let new ← expand k {} { atTilde := true } word
      Act.assign name (Span.flat new)
      let sh ← Act.shell
      match parameter? sh m name with
      | some value => return [⟨value,regionOf sh m name,false⟩]
      | none => return []

end

def pathsOf (w : World) (field : List Glyph) : List Bytes :=
  let whole := Span.letters field
  if w.shell.option 'f' then [whole]
  else
    let cwd := w.shell.process.cwd
    match (Span.pattern field).paths (w.system.names cwd) (w.system.exists_ cwd) with
    | [] => [whole]
    | paths => paths

def expandFields (k : Kernel) (word : Word) : Act (List Bytes) := do
  let spans ← expand k { isFull := true } { atTilde := true } word
  let w ← get
  return (fields w.shell.separators none spans).flatMap (pathsOf w)

def expandText (k : Kernel) (m : Mode) (word : Word) : Act Bytes := do
  return Span.flat (← expand k m { atTilde := !m.isAssignment && !m.isQuoted } word)

def expandPattern (k : Kernel) (word : Word) : Act Pattern := do
  let spans ← expand k {} { atTilde := true } word
  return Span.pattern (spans.flatMap (·.glyphs))

end ScriptLauncher.Shell
