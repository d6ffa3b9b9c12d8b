import ScriptLauncher.Text.Quoted
import ScriptLauncher.Text.Space
import ScriptLauncher.Host

namespace ScriptLauncher.Dotenv

-- Files of variables. Each statement is a name, `=` or `:`, and a value that is bare, in single
-- quotes or in double quotes; `#` starts a comment. Bare and double-quoted values may refer to
-- variables set earlier in the same file.

inductive Flaw where
  | emptyName
  | badName (b : UInt8) (near : Bytes)
  | openQuote (line : Bytes)

def Flaw.message : Flaw → Bytes
  | .emptyName => text "zero length string"
  | .badName b near =>
    text "unexpected character " ++ Quoted.quote (String.utf8EncodeChar (Char.ofNat b.toNat)) ++
      text " in variable name near " ++ Quoted.quote near
  | .openQuote line => text "unterminated quoted value " ++ line

-- White space within a line.
def isBlank (c : Char) : Bool :=
  let n := c.toNat
  n == 0x09 || n == 0x0B || n == 0x0C || n == 0x0D || n == 0x20 || n == 0x85 || n == 0xA0

def isBlankRune : Rune → Bool
  | .char c => isBlank c
  | .stray _ => false

def dropBlanks (s : Bytes) : Bytes := ((Utf8.decode s).dropWhile isBlankRune).flatMap Rune.bytes

def unifyLines : Bytes → Bytes
  | [] => []
  | 13 :: 10 :: s => 10 :: unifyLines s
  | b :: s => b :: unifyLines s

-- Where the next statement starts: past white space and comments.
def skipToStatement (fuel : Nat) (s : Bytes) : Bytes :=
  match fuel with
  | 0 => []
  | fuel + 1 =>
    match Space.trimLeft s with
    | [] => []
    | b :: rest =>
      if b == byte '#' then skipToStatement fuel (rest.dropWhile (· != Bytes.newline))
      else b :: rest

-- Bytes of a name, each taken as the character with its value: letters, numbers, `.` and `_`.
def isNameByte (b : UInt8) : Bool :=
  (65 ≤ b && b ≤ 90) || (97 ≤ b && b ≤ 122) || (48 ≤ b && b ≤ 57) ||
    b == byte '.' || b == byte '_' ||
    b == 0xAA || b == 0xB5 || b == 0xBA || b == 0xB2 || b == 0xB3 || b == 0xB9 ||
    (0xBC ≤ b && b ≤ 0xBE) || (0xC0 ≤ b && b != 0xD7 && b != 0xF7)

def isBlankByte (b : UInt8) : Bool := isBlank (Char.ofNat b.toNat)

-- Scans a name up to its separator. Without a separator there is no name, and the whole text is the
-- value. What was seen is kept from its end on.
def scanName (near : Bytes) : Bytes → Bytes → Except Flaw (Bytes × Bytes)
  | _,[] => .ok ([],near)
  | seen,b :: rest =>
    if isBlankByte b then scanName near (b :: seen) rest
    else if b == byte '=' || b == byte ':' then .ok (Space.trimRight seen.reverse,rest)
    else if isNameByte b then scanName near (b :: seen) rest
    else .error (.badName b near)

def dropExport (s : Bytes) : Bytes :=
  match Bytes.after? (text "export") s with
  | some rest => if (dropBlanks rest).length < rest.length then dropBlanks rest else s
  | none => s

def readName (s : Bytes) : Except Flaw (Bytes × Bytes) :=
  let start := dropExport (dropBlanks s)
  if start.isEmpty then .error .emptyName
  else (scanName start [] start).map fun (name,rest) => (name,dropBlanks rest)

def isReferenceByte (b : UInt8) : Bool :=
  (65 ≤ b && b ≤ 90) || (48 ≤ b && b ≤ 57) || b == byte '_'

def dropOne (b : UInt8) : Bytes → Bytes
  | [] => []
  | a :: s => if a == b then s else a :: s

-- A reference after its dollar sign: the name, and what follows the reference. The name may stand
-- in braces, and one parenthesis may open it.
def reference (s : Bytes) : Bytes × Bytes :=
  let inner := dropOne (byte '\x7b') (dropOne (byte '(') s)
  (inner.takeWhile isReferenceByte,dropOne (byte '\x7d') (inner.dropWhile isReferenceByte))

-- Replaces references by the values known so far, none by nothing. A backslash before a reference
-- keeps it.
def expand (vars : Variables) : Nat → Bytes → Bytes
  | 0,s => s
  | _ + 1,[] => []
  | fuel + 1,b :: s =>
    let taken (rest : Bytes) : Bytes := s.take (s.length - rest.length)
    if b == byte '$' then
      let (name,rest) := reference s
      (if name.isEmpty then b :: taken rest else vars.value name) ++ expand vars fuel rest
    else if b == byte '\\' && s.head? == some (byte '$') then
      let (_,rest) := reference (s.drop 1)
      taken rest ++ expand vars fuel rest
    else b :: expand vars fuel s

def expandAll (vars : Variables) (s : Bytes) : Bytes := expand vars (s.length + 1) s

-- Escaped `n` and `r` become line breaks; other escaped bytes stay as they are.
def breakLines : Bytes → Bytes
  | [] => []
  | [b] => [b]
  | a :: b :: s =>
    if a == byte '\\' && b != Bytes.newline then
      (if b == byte 'n' then [10] else if b == byte 'r' then [13] else [a,b]) ++ breakLines s
    else a :: breakLines (b :: s)

def unescape : Bytes → Bytes
  | [] => []
  | [b] => [b]
  | a :: b :: s =>
    if a == byte '\\' && b != byte '$' then b :: unescape s else a :: unescape (b :: s)

-- What stands before the first `#` after a blank, in a line that is given from its end on.
def beforeComment? : List Char → Option (List Char)
  | [] => none
  | '#' :: c :: rest => if isBlank c then some (c :: rest) else beforeComment? (c :: rest)
  | _ :: rest => beforeComment? rest

-- The part of a bare line before its comment: the last `#` after a blank starts it.
def dropComment (row : List Char) : List Char :=
  ((beforeComment? row.reverse).map List.reverse).getD row

def trimBlanks (line : List Char) : List Char :=
  ((line.dropWhile isBlank).reverse.dropWhile isBlank).reverse

-- The first closing quote that no backslash stands before; the text before it and after it. What
-- was seen is kept from its end on.
def closeQuote (quote : UInt8) : UInt8 → Bytes → Bytes → Option (Bytes × Bytes)
  | _,_,[] => none
  | previous,seen,b :: rest =>
    if b == quote && previous != byte '\\' then some (seen.reverse,rest)
    else closeQuote quote b (b :: seen) rest

def trimByte (b : UInt8) (s : Bytes) : Bytes :=
  ((s.reverse.dropWhile (· == b)).reverse).dropWhile (· == b)

def isLineEnd (b : UInt8) : Bool := b == 10 || b == 13

def readBare (vars : Variables) (s : Bytes) : Bytes × Bytes :=
  let line := (Utf8.decode (s.takeWhile fun b => !isLineEnd b)).map Rune.toChar
  (expandAll vars (Utf8.encode (trimBlanks (dropComment line))),s.dropWhile fun b => !isLineEnd b)

def readValue (vars : Variables) (s : Bytes) : Except Flaw (Bytes × Bytes) :=
  match s with
  | [] => .ok ([],[])
  | quote :: rest =>
    if quote == byte '"' || quote == byte '\'' then
      match closeQuote quote quote [] rest with
      | none => .error (.openQuote (s.takeWhile (· != Bytes.newline)))
      | some (inner,after) =>
        let value := trimByte quote inner
        let meaning :=
          if quote == byte '"' then expandAll vars (unescape (breakLines value)) else value
        .ok (meaning,after)
    else .ok (readBare vars s)

-- Statements one after the other. Each one takes at least a byte, so the length is fuel enough.
def statements : Nat → Variables → Bytes → Except Flaw Variables
  | 0,vars,_ => .ok vars
  | fuel + 1,vars,s =>
    match skipToStatement (s.length + 1) s with
    | [] => .ok vars
    | start =>
      match readName start with
      | .error flaw => .error flaw
      | .ok (name,rest) =>
        match readValue vars rest with
        | .error flaw => .error flaw
        | .ok (value,after) => statements fuel (vars.set name value) after

def parse (data : Bytes) : Except Flaw Variables :=
  let unified := unifyLines data
  statements (unified.length + 1) [] unified

def load (host : Host) (path : Bytes) : Except Fault Variables :=
  let note := text "read env file " ++ path ++ text ": "
  match host.read path with
  | .error fault => .error (.context note fault)
  | .ok data => (parse data).mapError fun flaw => .context note (.of (.other flaw.message))

end ScriptLauncher.Dotenv
