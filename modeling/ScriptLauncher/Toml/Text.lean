import ScriptLauncher.Text.Numeral
import ScriptLauncher.Text.Utf8

namespace ScriptLauncher.Toml

-- Texts of a TOML document: what characters it may hold, what stands between its parts, and its
-- four kinds of strings. A document is UTF-8 without control characters other than tabs and line
-- ends, and a carriage return only stands before a newline; this is checked once for the whole
-- document, so the readers here meet no other characters. A reader gives what it read and the rest,
-- or nothing.

def isAllowed (c : Char) : Bool :=
  c == '\t' || c == '\n' || c == '\r' || (0x20 ≤ c.toNat && c.toNat != 0x7F)

def linesEndWell : List Char → Bool
  | [] => true
  | '\r' :: '\n' :: s => linesEndWell s
  | '\r' :: _ => false
  | _ :: s => linesEndWell s

def characters? (data : Bytes) : Option (List Char) :=
  match Utf8.chars? data with
  | none => none
  | some cs => if cs.all isAllowed && linesEndWell cs then some cs else none

def isBlank (c : Char) : Bool := c == ' ' || c == '\t'

def skipBlanks (s : List Char) : List Char := s.dropWhile isBlank

def skipLine (s : List Char) : List Char := s.dropWhile (· != '\n')

def skipFiller : Bool → List Char → List Char
  | _,[] => []
  | true,c :: s => skipFiller (c != '\n') s
  | false,c :: s =>
    if isBlank c || c == '\n' || c == '\r' then skipFiller false s
    else if c == '#' then skipFiller true s
    else c :: s

def escape? : List Char → Option (Char × List Char)
  | '"' :: s => some ('"',s)
  | '\\' :: s => some ('\\',s)
  | 'b' :: s => some ('\x08',s)
  | 'f' :: s => some ('\x0c',s)
  | 'n' :: s => some ('\n',s)
  | 'r' :: s => some ('\r',s)
  | 't' :: s => some ('\t',s)
  | 'e' :: s => some ('\x1b',s)
  | 'u' :: s => (Numeral.codePoint? 4 s).map fun c => (c,s.drop 4)
  | 'U' :: s => (Numeral.codePoint? 8 s).map fun c => (c,s.drop 8)
  | _ => none

-- A basic string after its opening quote. What was seen is kept from its end on, here and below.
-- Fuel is the length of the text.
def basic : Nat → List Char → List Char → Option (List Char × List Char)
  | 0,_,_ => none
  | _ + 1,_,[] => none
  | fuel + 1,seen,c :: s =>
    if c == '"' then some (seen.reverse,s)
    else if c == '\n' || c == '\r' then none
    else if c == '\\' then
      match escape? s with
      | some (e,rest) => basic fuel (e :: seen) rest
      | none => none
    else basic fuel (c :: seen) s

def literal : List Char → List Char → Option (List Char × List Char)
  | _,[] => none
  | seen,c :: s =>
    if c == '\'' then some (seen.reverse,s)
    else if c == '\n' || c == '\r' then none
    else literal (c :: seen) s

-- The end of a string between triple quotes, at its first closing quote. Up to two quotes more
-- belong to the string.
def closing? (quote : Char) (s : List Char) : Option (List Char × List Char) :=
  let run := (s.takeWhile (· == quote)).length
  if run < 3 then none
  else if 5 < run then none
  else some (List.replicate (run - 3) quote,s.drop run)

def closesHere (quote : Char) (s : List Char) : Bool := s.take 3 == List.replicate 3 quote

def dropFirstLineEnd : List Char → List Char
  | '\n' :: s => s
  | '\r' :: '\n' :: s => s
  | s => s

def isLineSpace (c : Char) : Bool := isBlank c || c == '\n' || c == '\r'

-- After a backslash at the end of a line: the text from the next thing that is no white space.
def continued? (s : List Char) : Option (List Char) :=
  match skipBlanks s with
  | '\n' :: _ => some (s.dropWhile isLineSpace)
  | '\r' :: _ => some (s.dropWhile isLineSpace)
  | _ => none

def multiBasic : Nat → List Char → List Char → Option (List Char × List Char)
  | 0,_,_ => none
  | _ + 1,_,[] => none
  | fuel + 1,seen,c :: s =>
    if closesHere '"' (c :: s) then (closing? '"' (c :: s)).map fun (more,rest) => (seen.reverse ++ more,rest)
    else if c == '\\' then
      match continued? s with
      | some rest => multiBasic fuel seen rest
      | none =>
        match escape? s with
        | some (e,rest) => multiBasic fuel (e :: seen) rest
        | none => none
    else multiBasic fuel (c :: seen) s

def multiLiteral : List Char → List Char → Option (List Char × List Char)
  | _,[] => none
  | seen,c :: s =>
    if closesHere '\'' (c :: s) then
      (closing? '\'' (c :: s)).map fun (more,rest) => (seen.reverse ++ more,rest)
    else multiLiteral (c :: seen) s

def string? : List Char → Option (List Char × List Char)
  | '"' :: '"' :: '"' :: s => multiBasic (s.length + 1) [] (dropFirstLineEnd s)
  | '"' :: s => basic (s.length + 1) [] s
  | '\'' :: '\'' :: '\'' :: s => multiLiteral [] (dropFirstLineEnd s)
  | '\'' :: s => literal [] s
  | _ => none

def isBareKey (c : Char) : Bool :=
  ('a' ≤ c && c ≤ 'z') || ('A' ≤ c && c ≤ 'Z') || ('0' ≤ c && c ≤ '9') || c == '-' || c == '_'

def simpleKey? : List Char → Option (Bytes × List Char)
  | [] => none
  | '"' :: s => (basic (s.length + 1) [] s).map fun (k,rest) => (Utf8.encode k,rest)
  | '\'' :: s => (literal [] s).map fun (k,rest) => (Utf8.encode k,rest)
  | c :: s =>
    if isBareKey c then
      some (Utf8.encode ((c :: s).takeWhile isBareKey),(c :: s).dropWhile isBareKey)
    else none

-- A key: parts with dots between them. Fuel is the length of the text.
def key? : Nat → List Char → Option (List Bytes × List Char)
  | 0,_ => none
  | fuel + 1,s =>
    match simpleKey? s with
    | none => none
    | some (part,rest) =>
      match skipBlanks rest with
      | '.' :: more => (key? fuel (skipBlanks more)).map fun (parts,after) => (part :: parts,after)
      | after => some ([part],after)

end ScriptLauncher.Toml
