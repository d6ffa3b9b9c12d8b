import ScriptLauncher.Text.Bytes

namespace ScriptLauncher

-- Words of a command line. `split` reads the words a POSIX shell would see before any expansion:
-- blanks separate, a backslash takes the next byte literally, single quotes take everything, double
-- quotes keep all but a few escapes. `join` writes words so that `split` reads the same words back.

inductive Unterminated where
  | singleQuote
  | doubleQuote
  | escape
  deriving DecidableEq

def Unterminated.message : Unterminated → Bytes
  | .singleQuote => text "Unterminated single-quoted string"
  | .doubleQuote => text "Unterminated double-quoted string"
  | .escape => text "Unterminated backslash-escape"

namespace Words

def quoteMark : UInt8 := byte '\''
def doubleMark : UInt8 := byte '"'
def backslash : UInt8 := byte '\\'

def isBlank (b : UInt8) : Bool := b == Bytes.space || b == byte '\t' || b == Bytes.newline

-- Inside double quotes a backslash is special only before these.
def isDoubleEscape (b : UInt8) : Bool :=
  b == byte '$' || b == 96 || b == doubleMark || b == backslash || b == Bytes.newline

-- Where the reader stands: between words, or in a word and in which kind of quoting. A backslash
-- between words starts a word unless a newline follows.
inductive Place where
  | gap
  | gapEscape
  | raw
  | rawEscape
  | single
  | double
  | doubleEscape
  deriving DecidableEq

-- Reads the rest of a line; `word` is what the current word holds so far.
def scan : Place → Bytes → Bytes → Except Unterminated (List Bytes)
  | .gap,_,[] => .ok []
  | .gapEscape,_,[] => .error .escape
  | .raw,word,[] => .ok [word]
  | .rawEscape,_,[] => .error .escape
  | .single,_,[] => .error .singleQuote
  | .double,_,[] => .error .doubleQuote
  | .doubleEscape,_,[] => .error .doubleQuote
  | .gap,_,b :: s =>
    if isBlank b then scan .gap [] s
    else if b == backslash then scan .gapEscape [] s
    else if b == quoteMark then scan .single [] s
    else if b == doubleMark then scan .double [] s
    else scan .raw [b] s
  | .gapEscape,_,b :: s =>
    if b == Bytes.newline then scan .gap [] s else scan .raw [b] s
  | .raw,word,b :: s =>
    if isBlank b then (scan .gap [] s).map (word :: ·)
    else if b == backslash then scan .rawEscape word s
    else if b == quoteMark then scan .single word s
    else if b == doubleMark then scan .double word s
    else scan .raw (word ++ [b]) s
  | .rawEscape,word,b :: s =>
    if b == Bytes.newline then scan .raw word s else scan .raw (word ++ [b]) s
  | .single,word,b :: s =>
    if b == quoteMark then scan .raw word s else scan .single (word ++ [b]) s
  | .double,word,b :: s =>
    if b == doubleMark then scan .raw word s
    else if b == backslash then scan .doubleEscape word s
    else scan .double (word ++ [b]) s
  | .doubleEscape,word,b :: s =>
    if b == Bytes.newline then scan .double word s
    else if isDoubleEscape b then scan .double (word ++ [b]) s
    else scan .double (word ++ [backslash,b]) s

def split (line : Bytes) : Except Unterminated (List Bytes) := scan .gap [] line

def isSpecial (b : UInt8) : Bool := (text "\\'\"`$\x7b[|&;<>()*?!").contains b

-- A word without blanks: special bytes get a backslash, and so does a tilde at the start.
def escapeBare : Bytes → Bytes
  | [] => []
  | b :: s =>
    (if isSpecial b || b == byte '~' then [backslash,b] else [b]) ++
      s.flatMap fun c => if isSpecial c then [backslash,c] else [c]

-- A word with blanks: the runs between single quotes are quoted, the quotes themselves escaped.
def quoteBlanks (word : Bytes) : Bytes :=
  Bytes.join [backslash,quoteMark] <| (Bytes.splitOn quoteMark word).map fun run =>
    if run.isEmpty then [] else quoteMark :: run ++ [quoteMark]

def quote (word : Bytes) : Bytes :=
  if word.isEmpty then [quoteMark,quoteMark]
  else if word.any isBlank then quoteBlanks word
  else escapeBare word

def join (words : List Bytes) : Bytes := Bytes.join [Bytes.space] (words.map quote)

end Words

end ScriptLauncher
