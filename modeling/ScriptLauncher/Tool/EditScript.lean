import ScriptLauncher.Text.RegexReader

namespace ScriptLauncher.Tool.Edit

-- Scripts that edit texts line by line. A script is a list of commands; each says for which lines
-- it is meant and what to do. Groups of commands are kept flat, between the two that open and close
-- them.

inductive Address where
  | line (number : Nat)
  | last
  | every (first step : Nat)
  -- Lines that an expression fits; none means the one used last.
  | fits (pattern : Option Regex)

inductive Until where
  | address (a : Address)
  | more (count : Nat)
  | multiple (of : Nat)

structure Guard where
  first : Option Address := none
  until_ : Option Until := none
  isInverse : Bool := false

inductive Casing where
  | upper
  | lower
  | upperNext
  | lowerNext
  | same

-- A part of what is put in place of a match. Group zero is all of it.
inductive Piece where
  | byte_ (b : UInt8)
  | group (number : Nat)
  | casing (c : Casing)

structure Substitution where
  pattern : Option Regex
  pieces : List Piece
  nth : Nat := 1
  all : Bool := false
  prints : Bool := false
  file : Option Bytes := none

inductive Action where
  | opening
  | closing
  | label (name : Bytes)
  | plain (letter : UInt8)
  | quit (shows : Bool) (status : Nat)
  | words (letter : UInt8) (content : Bytes)
  | jump (letter : UInt8) (label : Bytes)
  | file (letter : UInt8) (path : Bytes)
  | substitute (s : Substitution)
  | exchange (pairs : List (UInt8 × UInt8))

structure Command where
  guard : Guard
  action : Action

-- What is wrong with a script, and how much of it was left to read; nothing if that does not
-- matter.
structure Problem where
  left : Option Nat
  message : Bytes

abbrev Parsing := StateT Bytes (Except Problem)

namespace Parsing

def fail {α : Type} (message : String) : Parsing α := do throw ⟨some (← get).length,text message⟩

def peek : Parsing (Option UInt8) := return (← get).head?

def skip : Parsing Unit := modify (·.drop 1)

def takeWhile (holds : UInt8 → Bool) : Parsing Bytes := do
  let found := (← get).takeWhile holds
  modify (·.drop found.length)
  return found

def blanks : Parsing Unit := discard (takeWhile ByteClass.isBlank)

def number? : Parsing (Option Nat) := do
  let digits ← takeWhile ByteClass.isDigit
  return if digits.isEmpty then none else some (Regex.Notation.number digits)

-- The end of a set in brackets: how many bytes it has up to and with the closing one.
def setLength (s : Bytes) : Option Nat :=
  let rec go : Nat → Bool → Bytes → Nat → Option Nat
    | 0,_,_,_ => none
    | _ + 1,_,[],_ => none
    | fuel + 1,isFirst,b :: rest,count =>
      if b == Bytes.newline then none
      else if b == 93 && !isFirst then some (count + 1)
      else if b == 91 && (rest.head? == some 58 || rest.head? == some 46 || rest.head? == some 61) then
        let name := (rest.drop 1).takeWhile ByteClass.isAlpha
        let closed := (rest.drop (name.length + 1)).take 2 == [rest.headD 0,93]
        if closed then go fuel false (rest.drop (name.length + 3)) (count + name.length + 4)
        else go fuel false rest (count + 1)
      else go fuel false rest (count + 1)
  let isInverse := s.head? == some (byte '^')
  let inside := if isInverse then s.drop 1 else s
  go (s.length + 1) true inside (if isInverse then 1 else 0)

-- A text up to a delimiter. A delimiter behind a backslash belongs to the text. In an expression a
-- set in brackets hides delimiters.
def delimited (delimiter : UInt8) (isPattern : Bool) : Nat → Parsing (Option Bytes)
  | 0 => return none
  | fuel + 1 => do
    match ← get with
    | [] => return none
    | b :: rest =>
      if b == delimiter then
        skip
        return some []
      else if b == Bytes.newline && isPattern then return none
      else if b == 92 then
        match rest with
        | [] =>
          skip
          return none
        | c :: behind =>
          set behind
          let kept : Bytes :=
            if c == byte 'n' && isPattern then [Bytes.newline]
            else if c == Bytes.newline then if isPattern then [c] else [92,c]
            else if c == delimiter && (isPattern || c != byte '&') then [c]
            else [92,c]
          return (← delimited delimiter isPattern fuel).map (kept ++ ·)
      else
        let count := if b == 91 && isPattern then (setLength rest).map (· + 1) else some 1
        match count with
        | none =>
          set ([] : Bytes)
          return none
        | some count =>
          set ((b :: rest).drop count)
          return (← delimited delimiter isPattern fuel).map ((b :: rest).take count ++ ·)

def delimitedText (delimiter : UInt8) (isPattern : Bool) : Parsing (Option Bytes) := do
  delimited delimiter isPattern ((← get).length + 1)

end Parsing

open Parsing

-- An expression; an empty one is the one used last.
def pattern (isExtended foldsCase : Bool) (s : Bytes) : Parsing (Option (Regex × Nat)) := do
  if s.isEmpty then return none
  match Regex.read { isExtended,foldsCase,hasEscapes := true } s with
  | .ok found => return some found
  | .error problem => fail problem.sentence

def addressFlags : Nat → Bool → Parsing Bool
  | 0,folds => return folds
  | fuel + 1,folds => do
    match ← peek with
    | some 73 =>
      skip
      addressFlags fuel true
    | some 77 =>
      skip
      addressFlags fuel folds
    | _ => return folds

def address? (isExtended : Bool) : Parsing (Option Address) := do
  let rec pattern? (delimiter : UInt8) : Parsing (Option Address) := do
    match ← delimitedText delimiter true with
    | none => fail "unterminated address regex"
    | some s =>
      let folds ← addressFlags 8 false
      return some (.fits ((← pattern isExtended folds s).map (·.1)))
  match ← get with
  | 47 :: rest =>
    set rest
    pattern? 47
  | 92 :: delimiter :: rest =>
    set rest
    pattern? delimiter
  | 36 :: rest =>
    set rest
    return some .last
  | _ =>
    match ← number? with
    | none => return none
    | some n =>
      blanks
      if (← peek) == some (byte '~') then
        skip
        let step := (← number?).getD 0
        return some (if step == 0 then .line n else .every n step)
      else return some (.line n)

def until? (isExtended : Bool) : Parsing Until := do
  match ← peek with
  | some 43 =>
    skip
    return .more ((← number?).getD 0)
  | some 126 =>
    skip
    return .multiple ((← number?).getD 0)
  | _ =>
    match ← address? isExtended with
    | some a => return .address a
    | none =>
      skip
      fail "unexpected `,'"

def guard (isExtended : Bool) : Parsing Guard := do
  if (← peek) == some 43 || (← peek) == some 126 then
    skip
    discard number?
    fail "invalid usage of +N or ~N as first address"
  let first ← address? isExtended
  blanks
  let until_ ← if first.isSome && (← peek) == some (byte ',') then do
      skip
      blanks
      pure (some (← until? isExtended))
    else pure none
  match first,until_ with
  | some (.line 0),some (.address (.fits _)) => pure ()
  | some (.line 0),_ =>
    skip
    fail "invalid usage of line address 0"
  | _,_ => pure ()
  blanks
  if (← peek) == some (byte '!') then
    skip
    blanks
    if (← peek) == some (byte '!') then
      skip
      fail "multiple `!'s"
    return { first,until_,isInverse := true }
  else return { first,until_ }

def ending : Parsing Unit := do
  blanks
  match ← peek with
  | none | some 125 | some 35 => return
  | some b =>
    skip
    if b != Bytes.newline && b != byte ';' then fail "extra characters after command"

-- What a text behind a command says: lines that a backslash joins, and the signs behind backslashes
-- for themselves.
def unfolded : Nat → Bytes → Bytes × Bytes
  | 0,s => ([],s)
  | _ + 1,[] => ([],[])
  | fuel + 1,92 :: b :: rest =>
    let (more,left) := unfolded fuel rest
    ((if b == Bytes.newline then b else (Regex.escapes.lookup b).getD b) :: more,left)
  | fuel + 1,b :: rest =>
    if b == Bytes.newline then ([],rest)
    else
      let (more,left) := unfolded fuel rest
      (b :: more,left)

def words : Parsing Bytes := do
  blanks
  match ← get with
  | [] => fail "expected \\ after `a', `c' or `i'"
  | 92 :: rest =>
    let behind := rest.dropWhile ByteClass.isBlank
    set (if behind.head? == some Bytes.newline then behind.drop 1 else if behind.isEmpty then [] else rest)
  | _ => pure ()
  let s ← get
  if s.isEmpty then return []
  let (found,left) := unfolded (s.length + 1) s
  set left
  return found ++ [Bytes.newline]

def path : Parsing Bytes := do
  blanks
  let found ← takeWhile (· != Bytes.newline)
  if found.isEmpty then fail "missing filename in r/R/w/W commands"
  return found

def pieces : Nat → Bytes → List Piece
  | 0,_ => []
  | _ + 1,[] => []
  | fuel + 1,92 :: b :: rest =>
    let casings : List (Char × Casing) :=
      [('U',.upper),('L',.lower),('u',.upperNext),('l',.lowerNext),('E',.same)]
    let piece : Piece := match casings.find? (byte ·.1 == b) with
      | some (_,c) => .casing c
      | none =>
        if ByteClass.isDigit b then .group (b.toNat - 48) else .byte_ ((Regex.escapes.lookup b).getD b)
    piece :: pieces fuel rest
  | fuel + 1,b :: rest => (if b == byte '&' then .group 0 else .byte_ b) :: pieces fuel rest

def flags : Nat → Substitution → Bool → Bool → Parsing (Substitution × Bool)
  | 0,s,folds,_ => return (s,folds)
  | fuel + 1,s,folds,isNumbered => do
    match ← peek with
    | none | some 125 | some 35 => return (s,folds)
    | some b =>
      if ByteClass.isDigit b then
        let n := (← number?).getD 0
        if isNumbered then fail "multiple number options to `s' command"
        if n == 0 then fail "number option to `s' command may not be zero"
        flags fuel { s with nth := n } folds true
      else
        skip
        if b == byte 'i' || b == byte 'I' then flags fuel s true isNumbered
        else if b == byte 'm' || b == byte 'M' || ByteClass.isBlank b then flags fuel s folds isNumbered
        else if b == byte 'p' then
          if s.prints then fail "multiple `p' options to `s' command"
          flags fuel { s with prints := true } folds isNumbered
        else if b == byte 'g' then
          if s.all then fail "multiple `g' options to `s' command"
          flags fuel { s with all := true } folds isNumbered
        else if b == byte 'w' then return ({ s with file := some (← path) },folds)
        else if b == Bytes.newline || b == byte ';' then return (s,folds)
        else fail "unknown option to `s'"

def substitution (isExtended : Bool) : Parsing Action := do
  let unterminated {α : Type} : Parsing α := fail "unterminated `s' command"
  match ← peek with
  | none => unterminated
  | some delimiter =>
    skip
    match ← delimitedText delimiter true with
    | none => unterminated
    | some source =>
      match ← delimitedText delimiter false with
      | none => unterminated
      | some replacement =>
        let found := pieces (replacement.length + 1) replacement
        let (s,folds) ← flags ((← get).length + 1) { pattern := none,pieces := found } false false
        let read ← pattern isExtended folds source
        let groups := (read.map (·.2)).getD 9
        let wrong := found.findSome? fun piece => match piece with
          | .group n => if groups < n then some n else none
          | _ => none
        match wrong with
        | some n => do
          throw ⟨some (← get).length,
            text "invalid reference \\" ++ Bytes.ofNat n ++ text " on `s' command's RHS"⟩
        | none => return .substitute { s with pattern := read.map (·.1) }

def exchanged : Nat → Bytes → Bytes
  | 0,_ => []
  | _ + 1,[] => []
  | fuel + 1,92 :: b :: rest =>
    if b == 92 then 92 :: exchanged fuel rest
    else match Regex.escapes.lookup b with
      | some meant => meant :: exchanged fuel rest
      | none => 92 :: b :: exchanged fuel rest
  | fuel + 1,b :: rest => b :: exchanged fuel rest

def exchange : Parsing Action := do
  let unterminated {α : Type} : Parsing α := fail "unterminated `y' command"
  match ← peek with
  | none => unterminated
  | some delimiter =>
    skip
    match ← delimitedText delimiter false with
    | none => unterminated
    | some source =>
      match ← delimitedText delimiter false with
      | none => unterminated
      | some target =>
        let source := exchanged (source.length + 1) source
        let target := exchanged (target.length + 1) target
        if source.length != target.length then fail "strings for `y' command are different lengths"
        ending
        return .exchange (source.zip target)

def labelName : Parsing Bytes := do
  blanks
  takeWhile fun b => !ByteClass.isSpace b && b != byte ';'

def action (isExtended : Bool) (g : Guard) (letter : UInt8) : Parsing Action := do
  let isOneOf (letters : String) : Bool := (text letters).contains letter
  if g.until_.isSome && isOneOf "=qQ" && letter != byte '=' then fail "command only uses one address"
  if letter == byte '\x7b' then return .opening
  else if letter == byte '\x7d' then
    if g.first.isSome then fail "\x7d doesn't want any addresses"
    ending
    return .closing
  else if letter == byte ':' then
    if g.first.isSome then fail ": doesn't want any addresses"
    let name ← labelName
    if name.isEmpty then fail "\":\" lacks a label"
    return .label name
  else if isOneOf "dDpPnN=hHgGxlzF" then
    ending
    return .plain letter
  else if isOneOf "qQ" then
    blanks
    let status := (← number?).getD 0
    ending
    return .quit (letter == byte 'q') status
  else if isOneOf "aic" then return .words letter (← words)
  else if isOneOf "btT" then
    blanks
    let name ← takeWhile fun b => !ByteClass.isSpace b && b != byte ';' && b != byte '\x7d'
    ending
    return .jump letter name
  else if isOneOf "rw" then return .file letter (← path)
  else if letter == byte 's' then substitution isExtended
  else if letter == byte 'y' then exchange
  else throw ⟨some (← get).length,text "unknown command: `" ++ [letter] ++ text "'"⟩

-- The commands of a script. The number tells how many groups are open.
def commands (isExtended : Bool) : Nat → Nat → Parsing (List Command × Nat)
  | 0,depth => return ([],depth)
  | fuel + 1,depth => do
    discard (takeWhile fun b => ByteClass.isSpace b || b == byte ';')
    match ← peek with
    | none => return ([],depth)
    | some 35 =>
      discard (takeWhile (· != Bytes.newline))
      commands isExtended fuel depth
    | some _ =>
      let g ← guard isExtended
      match ← peek with
      | none => fail "missing command"
      | some letter =>
        skip
        if letter == byte '\x7d' && depth == 0 then fail "unexpected `\x7d'"
        let act ← action isExtended g letter
        let depth := match act with
          | .opening => depth + 1
          | .closing => depth - 1
          | _ => depth
        let (others,depth) ← commands isExtended fuel depth
        return (⟨g,act⟩ :: others,depth)

end ScriptLauncher.Tool.Edit
