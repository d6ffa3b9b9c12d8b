import ScriptLauncher.Yaml.Source

namespace ScriptLauncher.Yaml

-- A place in a YAML text. Lines and columns carry meaning in YAML, so a cursor knows them beside
-- the text that is left. It also knows how many lines have ended since the last visible character,
-- which decides whether a comment still belongs to the line of the token before it. Characters are
-- decoded no further than somebody asks for. `require` asks for some, and readers look at a
-- character only after they have asked for it.

def isBlank (c : Char) : Bool := c == ' ' || c == '\t'

-- Characters that end a line: carriage return, newline, next line, line and paragraph separator.
def isBreak (c : Char) : Bool :=
  c == '\r' || c == '\n' || c == '\x85' || c == '\u2028' || c == '\u2029'

def endsLine (c : Char) : Bool := isBreak c || c == endMark

-- Whether a word ends before a character: a blank, the end of a line or the end of the text.
def endsWord (c : Char) : Bool := isBlank c || endsLine c

-- Characters of names: of anchors, of tag handles and of directives.
def isNameChar (c : Char) : Bool := c.isAlphanum || c == '_' || c == '-'

structure Cursor where
  ahead : List Char
  source : Source
  -- Whether a byte order mark stood at the cursor when characters were decoded last.
  marked : Bool
  index : Nat
  line : Nat
  column : Nat
  endings : Nat
  bound : Nat

namespace Cursor

def start (data : Bytes) : Cursor := ⟨[],.ofBytes data,false,0,0,0,0,data.length + 8⟩

-- Makes sure that so many characters are decoded. Nothing comes of it if the bytes that this takes
-- are malformed.
def require (count : Nat) (c : Cursor) : Option Cursor :=
  if (c.ahead.take count).length == count then some c
  else
    let source := if c.source.held.isEmpty then c.source.fetch else c.source
    (source.supply count (source.later.length + 2) c.ahead).map fun (ahead,source) =>
      { c with ahead,source,marked := ahead.head? == some orderMark }

def peek (c : Cursor) : Char := c.ahead.headD endMark

def peekAt (c : Cursor) (distance : Nat) : Char := c.ahead.getD distance endMark

def isAt (c : Cursor) (ch : Char) : Bool := c.peek == ch

def pass (c : Cursor) : Cursor :=
  { c with
    ahead := c.ahead.drop 1
    index := c.index + 1
    column := c.column + 1
    endings := if isBlank c.peek then c.endings else 0 }

def advance : Nat → Cursor → Cursor
  | 0,c => c
  | count + 1,c => advance count c.pass

-- Passes over the line end at the cursor, if there is one. A carriage return and a newline are one
-- line end.
def passLine (c : Cursor) : Cursor :=
  let past (count : Nat) : Cursor :=
    { c with
      ahead := c.ahead.drop count,index := c.index + count,line := c.line + 1,column := 0
      endings := c.endings + 1 }
  if c.peek == '\r' && c.peekAt 1 == '\n' then past 2
  else if isBreak c.peek then past 1
  else c

-- What the line end at the cursor stands for in a text. All but the two separators stand for a
-- newline.
def ending (c : Cursor) : List Char :=
  if c.peek == '\u2028' || c.peek == '\u2029' then [c.peek]
  else if isBreak c.peek then ['\n']
  else []

-- Passes over the characters of a kind and gives them, the last one first. The kind holds no line
-- end, and the first character has been asked for.
def takeRun (kind : Char → Bool) : Nat → List Char → Cursor → Option (List Char × Cursor)
  | 0,seen,c => some (seen,c)
  | fuel + 1,seen,c =>
    if kind c.peek then
      match c.pass.require 1 with
      | some d => takeRun kind fuel (c.peek :: seen) d
      | none => none
    else some (seen,c)

def takeWhile (kind : Char → Bool) (c : Cursor) : Option (List Char × Cursor) :=
  (c.require 1).bind fun c => (takeRun kind c.bound [] c).map fun (run,d) => (run.reverse,d)

def skipWhile (kind : Char → Bool) (c : Cursor) : Option Cursor :=
  (c.takeWhile kind).map (·.2)

def skipBlanks (c : Cursor) : Option Cursor := c.skipWhile isBlank

def skipLine (c : Cursor) : Option Cursor := c.skipWhile fun ch => !endsLine ch

-- Whether a line with three hyphens or three dots starts here, which bounds a document.
def isAtMarker (mark : Char) (c : Cursor) : Bool :=
  c.column == 0 && c.ahead.take 3 == [mark,mark,mark] && endsWord (c.peekAt 3)

def isAtBoundary (c : Cursor) : Bool := c.isAtMarker '-' || c.isAtMarker '.'

def commentReach : Nat := 512

-- How many blanks, and with `lines` also line ends, stand before the next comment; nothing if
-- something else comes first. Of the line ends only carriage returns and newlines are passed over.
def distance? (lines : Bool) : Nat → Nat → Cursor → Option (Option Nat × Cursor)
  | 0,_,c => some (none,c)
  | fuel + 1,count,c =>
    match c.require (count + 1) with
    | none => none
    | some c =>
      let ch := c.peekAt count
      if isBlank ch || (lines && (ch == '\n' || ch == '\r')) then
        distance? lines fuel (count + 1) c
      else if ch == '#' then some (some count,c)
      else if lines && isBreak ch && fuel != 0 then
        (c.require (count + 2)).map fun c => (none,c)
      else some (none,c)

-- Passes over characters up to an index; those in between are blanks and line ends.
def passTo (index : Nat) : Nat → Cursor → Cursor
  | 0,c => c
  | fuel + 1,c =>
    if index ≤ c.index then c
    else passTo index fuel (if isBreak c.peek then c.passLine else c.pass)

-- From a comment to the end of the last comment in a row. Between two of them there may be empty
-- lines, and tabs in front of the second.
def skipComments : Nat → Cursor → Option Cursor
  | 0,c => some c
  | fuel + 1,c =>
    match c.skipLine with
    | none => none
    | some c =>
      -- The character that ends the comment is passed over, if it is a single byte.
      if 0x7F < c.peek.toNat then c.require 2
      else match distance? true (commentReach - 1) 1 c with
        | none => none
        | some (none,c) => some c
        | some (some count,c) => skipComments fuel (c.passTo (c.index + count) (count + 1))

def skipRemark (c : Cursor) : Option Cursor :=
  if c.endings != 0 then some c
  else match distance? false commentReach 0 c with
    | none => none
    | some (none,c) => some c
    | some (some count,c) => (c.advance count).skipLine

end Cursor

end ScriptLauncher.Yaml
