import ScriptLauncher.Text.Numeral
import ScriptLauncher.Yaml.Cursor

namespace ScriptLauncher.Yaml

-- The text of YAML scalars: plain, quoted and block. Each reader starts at the scalar and gives its
-- text with the cursor after it, or nothing if the scalar is malformed. While a text is read it is
-- kept from its end on.

-- White space inside a scalar. Once a line has ended, blanks no longer count and the line ends
-- decide what the white space stands for. Blanks and further line ends are kept from their end on.
structure Gap where
  crossed : Bool
  blanks : List Char
  first : List Char
  further : List Char

namespace Gap

def empty : Gap := ⟨false,[],[],[]⟩

def joined : Gap := ⟨true,[],[],[]⟩

-- A single newline folds into a space, and of several the first is dropped.
def toText (g : Gap) : List Char :=
  if !g.crossed then g.blanks.reverse
  else if g.first == ['\n'] then (if g.further.isEmpty then [' '] else g.further.reverse)
  else g.first ++ g.further.reverse

def addBlank (g : Gap) (c : Char) : Gap :=
  if g.crossed then g else { g with blanks := c :: g.blanks }

def addEnding (g : Gap) (ending : List Char) : Gap :=
  if g.crossed then { g with further := ending.reverse ++ g.further } else ⟨true,[],ending,[]⟩

-- Reads on through white space. On a further line a tab may not stand left of `margin`.
def read (margin : Nat) : Nat → Gap → Cursor → Option (Gap × Cursor)
  | 0,g,c => some (g,c)
  | fuel + 1,g,c =>
    let ch := c.peek
    if isBlank ch then
      if g.crossed && ch == '\t' && c.column < margin then none
      else (c.pass.require 1).bind (read margin fuel (g.addBlank ch))
    else if isBreak ch then
      (c.require 2).bind fun c =>
        (c.passLine.require 1).bind (read margin fuel (g.addEnding c.ending))
    else some (g,c)

end Gap

namespace Scalar

def isFlowMark (c : Char) : Bool :=
  c == ',' || c == '?' || c == '[' || c == ']' || c == '\x7b' || c == '\x7d'

-- A plain word, the last character first: up to white space, a colon that ends a key, or a mark of
-- the enclosing brackets.
def plainWord (inFlow : Bool) : Nat → List Char → Cursor → Option (List Char × Cursor)
  | 0,seen,c => some (seen,c)
  | fuel + 1,seen,c =>
    let ch := c.peek
    if endsWord ch || (ch == ':' && endsWord (c.peekAt 1)) || (inFlow && isFlowMark ch) then
      some (seen,c)
    else (c.pass.require 2).bind (plainWord inFlow fuel (ch :: seen))

-- A plain scalar, from a word on. `margin` is the least column that its further lines may start in.
-- The flag of the result says that the scalar ended after a line end.
def plain (inFlow : Bool) (margin : Nat) :
    Nat → List Char → Gap → Cursor → Option (List Char × Bool × Cursor)
  | 0,seen,g,c => some (seen.reverse,g.crossed,c)
  | fuel + 1,seen,g,c =>
    match c.require 4 with
    | none => none
    | some c =>
      if c.isAtBoundary || c.isAt '#' then some (seen.reverse,g.crossed,c)
      else match plainWord inFlow c.bound [] c with
        | none => none
        | some (word,d) =>
          if word.isEmpty then some (seen.reverse,g.crossed,d)
          else
            let seen := word ++ g.toText.reverse ++ seen
            if !isBlank d.peek && !isBreak d.peek then some (seen.reverse,false,d)
            else match (d.require 1).bind (Gap.read margin d.bound .empty) with
              | none => none
              | some (g,e) =>
                if !inFlow && e.column < margin then some (seen.reverse,g.crossed,e)
                else plain inFlow margin fuel seen g e

def escape? (c : Char) : Option Char :=
  [('0','\x00'),('a','\x07'),('b','\x08'),('t','\t'),('\t','\t'),('n','\n'),
    ('v','\x0b'),('f','\x0c'),('r','\r'),('e','\x1b'),(' ',' '),('"','"'),
    ('\'','\''),('\\','\\'),('N','\x85'),('_','\xa0'),('L','\u2028'),
    ('P','\u2029')].lookup c

-- Visible characters between single quotes, the last one first; two quotes stand for one.
def singleRun : Nat → List Char → Cursor → Option (List Char × Gap × Cursor)
  | 0,seen,c => some (seen,.empty,c)
  | fuel + 1,seen,c =>
    let ch := c.peek
    if endsWord ch then some (seen,.empty,c)
    else if ch == '\'' then
      if c.peekAt 1 == '\'' then ((c.advance 2).require 2).bind (singleRun fuel ('\'' :: seen))
      else some (seen,.empty,c)
    else (c.pass.require 2).bind (singleRun fuel (ch :: seen))

-- An escape in double quotes, with its backslash: the character, and the cursor after it. The
-- digits of a code are asked for when their number is known.
def escaped? (c : Cursor) : Option (Char × Cursor) :=
  let count : Option Nat := [('x',2),('u',4),('U',8)].lookup (c.peekAt 1)
  match count with
  | none => (escape? (c.peekAt 1)).map fun ch => (ch,c.advance 2)
  | some count =>
    match (c.advance 2).require count with
    | none => none
    | some d => (Numeral.codePoint? count (d.ahead.take count)).map fun ch => (ch,d.advance count)

def doubleRun : Nat → List Char → Cursor → Option (List Char × Gap × Cursor)
  | 0,seen,c => some (seen,.empty,c)
  | fuel + 1,seen,c =>
    let ch := c.peek
    if endsWord ch || ch == '"' then some (seen,.empty,c)
    else if ch == '\\' then
      if isBreak (c.peekAt 1) then
        (c.require 3).map fun c => (seen,.joined,c.pass.passLine)
      else match escaped? c with
        | none => none
        | some (value,d) => (d.require 2).bind (doubleRun fuel (value :: seen))
    else (c.pass.require 2).bind (doubleRun fuel (ch :: seen))

-- A quoted scalar after its opening quote. A line that bounds a document may not stand in it.
def quoted (quote : Char) : Nat → List Char → Cursor → Option (List Char × Cursor)
  | 0,_,_ => none
  | fuel + 1,seen,c =>
    match c.require 4 with
    | none => none
    | some c =>
      if c.isAtBoundary || c.isAt endMark then none
      else
        let run := if quote == '"' then doubleRun c.bound [] c else singleRun c.bound [] c
        match run.bind fun (run,before,c) => (c.require 1).map fun c => (run,before,c) with
        | none => none
        | some (run,before,c) =>
          let seen := run ++ seen
          if c.isAt quote then some (seen.reverse,c.pass)
          else match Gap.read 0 c.bound before c with
            | none => none
            | some (g,d) => quoted quote fuel (g.toText.reverse ++ seen) d

inductive Chomp where
  | strip
  | clip
  | keep
  deriving DecidableEq

structure BlockHeader where
  chomp : Chomp
  indent : Option Nat

def chomp? (c : Char) : Option Chomp :=
  if c == '+' then some .keep else if c == '-' then some .strip else none

def indentDigit? (c : Char) : Option (Option Nat) :=
  if c == '0' then none else if Numeral.isDigit c then some (some (c.toNat - 48)) else some none

def readChomp (c : Cursor) : Option (Option Chomp × Cursor) :=
  (c.require 1).map fun c =>
    match chomp? c.peek with
    | some chomp => (some chomp,c.pass)
    | none => (none,c)

def readIndent (c : Cursor) : Option (Option Nat × Cursor) :=
  (c.require 1).bind fun c =>
    match indentDigit? c.peek with
    | none => none
    | some none => some (none,c)
    | some indent => some (indent,c.pass)

-- The announcement after the mark: a sign and a digit in either order, both optional.
def blockHeader? (c : Cursor) : Option (BlockHeader × Cursor) :=
  match readChomp c with
  | none => none
  | some (some chomp,c) => (readIndent c).map fun (indent,c) => (⟨chomp,indent⟩,c)
  | some (none,c) =>
    match readIndent c with
    | none => none
    | some (none,c) => some (⟨.clip,none⟩,c)
    | some (indent,c) => (readChomp c).map fun (chomp,c) => (⟨chomp.getD .clip,indent⟩,c)

-- The rest of the line that announces something: blanks, a comment, the line end.
def finishLine? (c : Cursor) : Option Cursor :=
  match c.skipBlanks.bind fun c => if c.isAt '#' then c.skipLine else some c with
  | none => none
  | some c =>
    if isBreak c.peek then (c.require 2).map (·.passLine)
    else if c.isAt endMark then some c
    else none

-- Empty lines and indentation in front of a line of a block scalar: the line ends, the widest
-- indentation met, and the cursor at the line. With no indentation given, all spaces count. A tab
-- in place of indentation is refused.
def blockLines (indent : Option Nat) :
    Nat → List Char → Nat → Cursor → Option (List Char × Nat × Cursor)
  | 0,seen,widest,c => some (seen.reverse,widest,c)
  | fuel + 1,seen,widest,c =>
    let isShort (c : Cursor) : Bool := match indent with
      | some n => decide (c.column < n)
      | none => true
    let room := match indent with
      | some n => n - c.column
      | none => c.bound
    match (c.require 1).bind (Cursor.takeRun (· == ' ') room []) with
    | none => none
    | some (_,c) =>
      let widest := max widest c.column
      if isShort c && c.isAt '\t' then none
      else if isBreak c.peek then
        (c.require 2).bind fun c => blockLines indent fuel (c.ending.reverse ++ seen) widest c.passLine
      else some (seen.reverse,widest,c)

-- The lines of a block scalar. `ending` is the end of the line before, `empties` the ends of empty
-- lines after it, `indented` says that the line before started with a blank. When folding, a
-- newline between two lines that start with no blank becomes a space, unless empty lines follow it.
def blockBody (folded : Bool) (indent : Nat) :
    Nat → List Char → List Char → List Char → Bool → Cursor →
      Option (List Char × List Char × List Char × Cursor)
  | 0,seen,ending,empties,_,c => some (seen.reverse,ending,empties,c)
  | fuel + 1,seen,ending,empties,indented,c =>
    if c.column != indent || c.isAt endMark then some (seen.reverse,ending,empties,c)
    else
      let isIndented := isBlank c.peek
      let joint :=
        if folded && !indented && !isIndented && ending == ['\n'] then
          (if empties.isEmpty then [' '] else [])
        else ending
      match c.takeWhile fun ch => !endsLine ch with
      | none => none
      | some (line,c) =>
        let seen := (joint ++ empties ++ line).reverse ++ seen
        match c.require 2 with
        | none => none
        | some c =>
          match blockLines (some indent) c.bound [] 0 c.passLine with
          | none => none
          | some (empties,_,d) => blockBody folded indent fuel seen c.ending empties isIndented d

-- A block scalar after its mark. `margin` is the least indentation in force: that of the
-- surrounding block plus one. An indentation that is announced counts from the surrounding block.
def block (folded : Bool) (margin : Nat) (c : Cursor) : Option (List Char × Cursor) :=
  match (blockHeader? c).bind fun (header,c) => (finishLine? c).map fun c => (header,c) with
  | none => none
  | some (header,c) =>
    let announced := header.indent.map fun n => (margin - 1) + n
    match blockLines announced c.bound [] 0 c with
    | none => none
    | some (empties,widest,c) =>
      let indent := announced.getD (max (max widest margin) 1)
      match (c.require 1).bind (blockBody folded indent c.bound [] [] empties false) with
      | none => none
      | some (seen,ending,empties,c) =>
        match header.chomp with
        | .strip => some (seen,c)
        | .clip => some (seen ++ ending,c)
        | .keep => some (seen ++ ending ++ empties,c)

end Scalar

end ScriptLauncher.Yaml
