import ScriptLauncher.Yaml.Token

namespace ScriptLauncher.Yaml

-- From the characters of a YAML text to its tokens. Indentation opens and closes blocks. A key is
-- only known as such once its colon has been seen, so the place where a key may have started is
-- kept, and the mark for the key is put there later. Tokens are read as they are used, with some
-- lookahead, and a token that may turn out to start a key waits until that is settled. What follows
-- the tokens in use may therefore break any rule.

structure Candidate where
  isPossible : Bool
  number : Nat
  index : Nat
  line : Nat
  column : Nat
  required : Bool

namespace Candidate

def none_ : Candidate := ⟨false,0,0,0,0,false⟩

def isFresh (k : Candidate) (c : Cursor) : Bool :=
  c.line ≤ k.line && c.index ≤ k.index + 1024

end Candidate

structure Reading where
  cursor : Cursor
  queue : List Token
  used : Nat
  indents : List Nat
  -- The candidate outside of all brackets, and one inside of each open bracket, the innermost
  -- first.
  candidates : List Candidate
  depth : Nat
  -- Numbers of tokens that wait for a candidate, the latest first, and the depth of the candidate.
  waiting : List (Nat × Nat)
  keyAllowed : Bool

namespace Reading

def start (data : Bytes) : Option Reading :=
  ((Cursor.start data).require 1).map fun c =>
    ⟨c,[.textStart],0,[],[.none_],0,[],true⟩

def inFlow (r : Reading) : Bool := r.depth != 0

def candidate (r : Reading) : Candidate := r.candidates.headD .none_

def setCandidate (r : Reading) (k : Candidate) : Reading :=
  { r with candidates := k :: r.candidates.drop 1 }

def count (r : Reading) : Nat := r.used + r.queue.length

def margin (r : Reading) : Nat :=
  match r.indents with
  | [] => 0
  | column :: _ => column + 1

def push (r : Reading) (t : Token) : Reading := { r with queue := r.queue ++ [t] }

-- Puts a token behind the first `number` ones, or behind all if that place is in use already.
def insert (r : Reading) (number : Nat) (t : Token) : Reading :=
  if number < r.used then r.push t
  else
    let before := number - r.used
    { r with queue := r.queue.take before ++ t :: r.queue.drop before }

def release (r : Reading) (number : Nat) : Reading :=
  { r with waiting := r.waiting.takeWhile (number < ·.1) ++
      (r.waiting.dropWhile (number < ·.1)).filter (·.1 != number) }

def awaited (r : Reading) (number : Nat) : Option Nat :=
  match r.waiting.dropWhile (number < ·.1) with
  | (n,depth) :: _ => if n == number then some depth else none
  | [] => none

-- Closes the blocks that stand further right than `column`; without a column, all of them.
def closeBlocks (column : Option Nat) (r : Reading) : Reading :=
  if r.inFlow then r
  else
    let closed := r.indents.takeWhile fun indent =>
      match column with
      | some n => n < indent
      | none => true
    { r with
      queue := r.queue ++ List.replicate closed.length .blockEnd
      indents := r.indents.drop closed.length }

def depthLimit : Nat := 10000

def openBlock (column number : Nat) (t : Token) (r : Reading) : Option Reading :=
  if r.inFlow || column < r.margin then some r
  else if depthLimit ≤ r.indents.length then none
  else some ({ r with indents := column :: r.indents }.insert number t)

-- Gives up the candidate for a key; one that had to be a key breaks the rules.
def dropCandidate (r : Reading) : Option Reading :=
  let k := r.candidate
  if !k.isPossible then some r
  else if k.required then none
  else some ((r.setCandidate { k with isPossible := false }).release k.number)

def markCandidate (r : Reading) : Option Reading :=
  if !r.keyAllowed then some r
  else
    r.dropCandidate.map fun r =>
      let c := r.cursor
      let required := !r.inFlow && r.indents.head? == some c.column
      let r := r.setCandidate ⟨true,r.count,c.index,c.line,c.column,required⟩
      { r with waiting := (r.count,r.depth) :: r.waiting.filter (·.1 != r.count) }

-- Passes over blanks, line ends and comments. Tabs count as blanks where no key may start. At the
-- start of a line a character is passed over if a byte order mark is the first of those at hand,
-- whatever the character itself is.
def skipFiller : Nat → Reading → Option Reading
  | 0,r => some r
  | fuel + 1,r =>
    let isFiller (ch : Char) : Bool := ch == ' ' || (ch == '\t' && (r.inFlow || !r.keyAllowed))
    let here := do
      let c ← r.cursor.require 1
      let c ← (if c.column == 0 && c.marked then c.pass else c).skipWhile isFiller
      if c.isAt '#' then c.skipComments c.bound else some c
    match here with
    | none => none
    | some c =>
      if isBreak c.peek then
        match c.require 2 with
        | none => none
        | some c =>
          skipFiller fuel { r with cursor := c.passLine,keyAllowed := r.keyAllowed || !r.inFlow }
      else some { r with cursor := c }

def mark (count : Nat) (keyAllowed : Bool) (t : Token) (r : Reading) : Reading :=
  { r.push t with cursor := r.cursor.advance count,keyAllowed }

def accept (keyAllowed : Bool) (found : Option (Token × Cursor)) (r : Reading) : Option Reading :=
  found.map fun (t,c) => { r.push t with cursor := c,keyAllowed }

def readEnd (r : Reading) : Option Reading :=
  let c := r.cursor
  let c := if c.column == 0 then c else { c with column := 0,line := c.line + 1 }
  ({ r with cursor := c }.closeBlocks none).dropCandidate.map (mark 0 false .textEnd)

def readDirective (r : Reading) : Option Reading :=
  (r.closeBlocks none).dropCandidate.bind fun r => r.accept false (Token.directive? r.cursor)

def readBoundary (t : Token) (r : Reading) : Option Reading :=
  (r.closeBlocks none).dropCandidate.map (mark 3 false t)

def readOpening (t : Token) (r : Reading) : Option Reading :=
  r.markCandidate.bind fun r =>
    if depthLimit ≤ r.depth then none
    else
      let inner : Candidate := { Candidate.none_ with number := r.count }
      some ({ r with candidates := inner :: r.candidates,depth := r.depth + 1 }.mark 1 true t)

-- Leaves a bracket. The token that its candidate was last noted for waits no longer; if there was
-- none inside of the bracket, that is the token of the bracket itself.
def readClosing (t : Token) (r : Reading) : Option Reading :=
  r.dropCandidate.map fun r =>
    let r :=
      if r.inFlow then
        { r.release r.candidate.number with
          candidates := r.candidates.drop 1,depth := r.depth - 1 }
      else r
    r.mark 1 false t

def readFlowEntry (r : Reading) : Option Reading :=
  r.dropCandidate.map (mark 1 true .flowEntry)

-- An indicator that starts a block here; outside of brackets only where a key may start.
def openHere (t : Token) (r : Reading) : Option Reading :=
  if r.inFlow then some r
  else if !r.keyAllowed then none
  else r.openBlock r.cursor.column r.count t

def readBlockEntry (r : Reading) : Option Reading :=
  (r.openHere .blockSequence).bind fun r => r.dropCandidate.map (mark 1 true .blockEntry)

def readKey (r : Reading) : Option Reading :=
  (r.openHere .blockMapping).bind fun r => r.dropCandidate.map (mark 1 (!r.inFlow) .key)

-- A colon makes the candidate a key. Without a candidate it follows an explicit key.
def readValue (r : Reading) : Option Reading :=
  let complex (r : Reading) : Option Reading :=
    (r.openHere .blockMapping).map fun r => r.mark 1 (!r.inFlow) .value
  let k := r.candidate
  if !k.isPossible then complex r
  else if k.isFresh r.cursor then
    ((r.insert k.number .key).openBlock k.column k.number .blockMapping).map fun r =>
      ((r.setCandidate { k with isPossible := false }).release k.number).mark 1 false .value
  else if k.required then none
  else complex (r.setCandidate { k with isPossible := false })

def readName (make : List Char → Token) (r : Reading) : Option Reading :=
  r.markCandidate.bind fun r =>
    r.accept false ((Token.name? r.cursor.pass).map fun (name,c) => (make name,c))

def readTag (r : Reading) : Option Reading :=
  r.markCandidate.bind fun r => r.accept false (Token.tag? r.cursor)

def readBlockScalar (folded : Bool) (r : Reading) : Option Reading :=
  r.dropCandidate.bind fun r =>
    r.accept true ((Scalar.block folded r.margin r.cursor.pass).map fun (cs,c) =>
      (.scalar false cs,c))

def readQuoted (quote : Char) (r : Reading) : Option Reading :=
  r.markCandidate.bind fun r =>
    r.accept false ((Scalar.quoted quote r.cursor.bound [] r.cursor.pass).map fun (cs,d) =>
      (.scalar false cs,d))

def readPlain (r : Reading) : Option Reading :=
  r.markCandidate.bind fun r =>
    match Scalar.plain r.inFlow r.margin r.cursor.bound [] .empty r.cursor with
    | some (cs,crossed,c) => r.accept crossed (some (.scalar true cs,c))
    | none => none

def isIndicator (c : Char) : Bool :=
  ['-','?',':',',','[',']','\x7b','\x7d','#','&','*','!','|','>','\'','"','%','@',
    '\x60'].contains c

def readContent (ch after : Char) (r : Reading) : Option Reading :=
  if ch == '[' then r.readOpening .flowSequence
  else if ch == '\x7b' then r.readOpening .flowMapping
  else if ch == ']' then r.readClosing .flowSequenceEnd
  else if ch == '\x7d' then r.readClosing .flowMappingEnd
  else if ch == ',' then r.readFlowEntry
  else if ch == '-' && endsWord after then r.readBlockEntry
  else if ch == '?' && (r.inFlow || endsWord after) then r.readKey
  else if ch == ':' && (r.inFlow || endsWord after) then r.readValue
  else if ch == '*' then r.readName .alias
  else if ch == '&' then r.readName .anchor
  else if ch == '!' then r.readTag
  else if ch == '|' && !r.inFlow then r.readBlockScalar false
  else if ch == '>' && !r.inFlow then r.readBlockScalar true
  else if ch == '\'' then r.readQuoted '\''
  else if ch == '"' then r.readQuoted '"'
  else if isBlank ch then none
  else if !isIndicator ch || ch == '-' || ch == '?' || ch == ':' then r.readPlain
  else none

def skipRemark (r : Reading) : Option Reading :=
  if r.queue.getLast? == some .blockEntry then some r
  else r.cursor.skipRemark.map fun cursor => { r with cursor }

-- Reads on to the next token, with the ends of blocks before it. Behind the end of the text that
-- end is read again.
def readNext (r : Reading) : Option Reading :=
  match (r.skipFiller r.cursor.bound).map fun r => r.closeBlocks (some r.cursor.column) with
  | none => none
  | some r =>
    match r.cursor.require 4 with
    | none => none
    | some c =>
      let r := { r with cursor := c }
      if c.isAt endMark then r.readEnd
      else if c.column == 0 && c.isAt '%' then r.readDirective
      else if c.isAtMarker '-' then r.readBoundary .documentStart
      else if c.isAtMarker '.' then r.readBoundary .documentEnd
      else (r.readContent c.peek (c.peekAt 1)).bind skipRemark

def lookahead : Nat := 2

-- Whether the next token waits for a candidate, and the reading with a candidate that has become
-- impossible given up.
def isWaiting (r : Reading) : Option (Bool × Reading) :=
  match r.awaited r.used with
  | none => some (false,r)
  | some depth =>
    let inner := r.candidates.take (r.depth - depth)
    match r.candidates.drop (r.depth - depth) with
    | [] => some (false,r)
    | k :: outer =>
      if !k.isPossible then some (false,r)
      else if k.isFresh r.cursor then some (true,r)
      else if k.required then none
      else some (false,{ r with candidates := inner ++ { k with isPossible := false } :: outer })

def prepare : Nat → Reading → Option Reading
  | 0,r => some r
  | fuel + 1,r =>
    if r.queue.length ≤ lookahead then r.readNext.bind (prepare fuel)
    else
      match r.isWaiting with
      | none => none
      | some (false,r) => some r
      | some (true,r) => r.readNext.bind (prepare fuel)

def peek (r : Reading) : Option (Token × Reading) :=
  (r.prepare (r.cursor.bound + 8)).bind fun r => r.queue.head?.map fun t => (t,r)

def skip (r : Reading) : Reading := { r with queue := r.queue.drop 1,used := r.used + 1 }

end Reading

end ScriptLauncher.Yaml
