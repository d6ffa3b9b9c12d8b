import ScriptLauncher.Text.RegexReader
import ScriptLauncher.Tool.Lines

namespace ScriptLauncher.Tool.Selection

-- The program that chooses lines. A line is chosen if one of several patterns fits a part of it,
-- or, the other way round, if none does. Chosen lines are shown, counted, or only decide how the
-- program ends.

structure Choice where
  pattern : Regex
  isInverse : Bool
  wholeLines : Bool
  wholeWords : Bool

namespace Choice

def suits (c : Choice) (first last : Regex.Spot) : Bool :=
  if c.wholeLines then first.before.isNone && last.rest.isEmpty
  else !c.wholeWords ||
    (!first.before.any ByteClass.isWord && !last.rest.head?.any ByteClass.isWord)

def find? (c : Choice) (line : Bytes) (behind : Nat) : Option Regex.Match :=
  c.pattern.search c.suits (line.length + 1) ((Regex.Spot.ofText line).skip behind)

def chooses (c : Choice) (line : Bytes) : Bool := (c.find? line 0).isSome != c.isInverse

-- The parts of a line that the pattern fits, from a place on; empty parts are left out.
def parts (c : Choice) (line : Bytes) : Nat → Nat → List Bytes
  | 0,_ => []
  | fuel + 1,behind =>
    match c.find? line behind with
    | none => []
    | some m =>
      if m.length == 0 then if line.length ≤ m.start then [] else parts c line fuel (m.start + 1)
      else (line.drop m.start).take m.length :: parts c line fuel (m.start + m.length)

end Choice

structure Display where
  showsNames : Bool
  showsNumbers : Bool
  onlyParts : Bool
  before : Nat
  behind : Nat
  hasSurroundings : Bool

def Display.line (d : Display) (c : Choice) (name : Bytes) (number : Nat) (isChosen : Bool) (line : Bytes) :
    Bytes :=
  let mark := byte (if isChosen then ':' else '-')
  let intro := (if d.showsNames then name ++ [mark] else []) ++
    (if d.showsNumbers then Bytes.ofNat number ++ [mark] else [])
  if !d.onlyParts then intro ++ line ++ [Bytes.newline]
  else if !isChosen || c.isInverse then []
  else (c.parts line (line.length + 2) 0).flatMap fun part => intro ++ part ++ [Bytes.newline]

def reach (distance : Nat) (marks : List Bool) : List Bool :=
  (marks.foldl (fun (done,left) mark =>
    let left := if mark then distance + 1 else left - 1
    (decide (0 < left) :: done,left)) (([] : List Bool),0)).1.reverse

-- Chosen lines and those around them. Groups of lines that do not follow each other are set apart,
-- also from those shown before.
def Display.text (d : Display) (c : Choice) (name : Bytes) (ls : List (Bytes × Bool)) (hasBefore : Bool) :
    Bytes :=
  let marks := ls.map (·.2)
  let near := (reach d.behind marks).zip (reach d.before marks.reverse).reverse
  let shown := ((ls.zip near).zipIdx 1).filter fun ((_,behind,before),_) => behind || before
  let step (state : List Bytes × Option Nat) (entry : ((Bytes × Bool) × Bool × Bool) × Nat) :
      List Bytes × Option Nat :=
    let (((line,isChosen),_),i) := entry
    let isApart := match state.2 with
      | some last => last + 1 != i
      | none => hasBefore
    let gap := if d.hasSurroundings && isApart then ScriptLauncher.text "--\n" else []
    ((gap ++ d.line c name i isChosen line) :: state.1,some i)
  (shown.foldl step ([],none)).1.reverse.flatten

def anyOf (n : Regex.Notation) (isFixed : Bool) (patterns : List Bytes) : Except Regex.Problem Regex := do
  let read (s : Bytes) : Except Regex.Problem Regex :=
    if isFixed then
      return s.foldr (fun b rest => .sequence (.one (n.folded (· == b))) rest) .nothing
    else return (← Regex.read n s).1
  let each ← patterns.mapM read
  match each.reverse with
  | [] => return .one fun _ => false
  | last :: others => return others.foldl (fun rest r => .choice r rest) last

def spec : Spec :=
  { plain := "EFGivcnlLqsowxhHya",valued := "efmABC",status := 2
    usage := ["Usage: grep [OPTION]... PATTERNS [FILE]..."]
    long := [("extended-regexp",'E'),("fixed-strings",'F'),("basic-regexp",'G'),("regexp",'e'),
      ("file",'f'),("ignore-case",'i'),("invert-match",'v'),("word-regexp",'w'),("line-regexp",'x'),
      ("count",'c'),("files-with-matches",'l'),("files-without-match",'L'),("max-count",'m'),
      ("only-matching",'o'),("quiet",'q'),("silent",'q'),("no-messages",'s'),("line-number",'n'),
      ("with-filename",'H'),("no-filename",'h'),("after-context",'A'),("before-context",'B'),
      ("context",'C'),("text",'a')] }

def patterns (options : Options) (operands : List Bytes) : Work (List Bytes × List Bytes) := do
  let given ← options.mapM fun (letter,value) => do
    if letter == byte 'e' then return Bytes.splitOn Bytes.newline value
    else if letter == byte 'f' then
      match ← Work.content value with
      | .ok data => return (lines data).1
      | .error how => Work.stop (value ++ text ": " ++ how.sentence) 2
    else return []
  if options.has 'e' || options.has 'f' then return (given.flatten,operands)
  else match operands with
    | pattern :: operands => return (Bytes.splitOn Bytes.newline pattern,operands)
    | [] => spec.usageOnly

def notationLetter (options : Options) : UInt8 :=
  ((options.reverse.find? fun (letter,_) => (text "EFG").contains letter).map (·.1)).getD (byte 'G')

def contextOf (options : Options) (letter : Char) : Work Nat := do
  match (options.value? letter).orElse fun _ => options.value? 'C' with
  | none => return 0
  | some word =>
    match decimal? word with
    | some n => return n
    | none => Work.stop (word ++ text ": invalid context length argument") 2

-- What is done with the lines of one file. Tells whether lines were chosen and whether any were
-- shown.
def file (c : Choice) (d : Display) (options : Options) (limit : Option Nat) (path : Bytes) (hasBefore : Bool) :
    Work (Bool × Bool) := do
  match ← Work.content path with
  | .error how =>
    if !options.has 's' then Work.remark (path ++ text ": " ++ how.sentence)
    Work.fails 2
    return (false,hasBefore)
  | .ok data =>
    let name := if path == text "-" then text "(standard input)" else path
    let ls := (lines data).1
    let marked := (ls.foldl (fun (done,left) line =>
      let isChosen := left != some 0 && c.chooses line
      ((line,isChosen) :: done,if isChosen then left.map (· - 1) else left)) (([] : List (Bytes × Bool)),limit)).1.reverse
    let count := marked.countP (·.2)
    let isFound := 0 < count
    if options.has 'q' then
      if isFound then throw (.status 0)
      return (isFound,hasBefore)
    if options.has 'l' || options.has 'L' then
      if (options.has 'l' && isFound) || (options.has 'L' && !isFound) then Work.putLine name
      return (isFound,hasBefore)
    if options.has 'c' then
      Work.putLine ((if d.showsNames then name ++ text ":" else []) ++ Bytes.ofNat count)
      return (isFound,hasBefore)
    if data.contains 0 && !options.has 'a' then
      if isFound then
        discard Work.flush
        Work.remark (name ++ text ": binary file matches")
      return (isFound,hasBefore)
    Work.put (d.text c name marked hasBefore)
    return (isFound,hasBefore || isFound)

def choose : Work Unit := do
  let (options,operands) ← spec.parse (← Work.operands)
  let limit ← match options.value? 'm' with
    | none => pure none
    | some word =>
      match decimal? word with
      | some n => pure (some n)
      | none => Work.stop (text "invalid max count") 2
  let before ← contextOf options 'B'
  let behind ← contextOf options 'A'
  let (given,operands) ← patterns options operands
  let letter := notationLetter options
  let n : Regex.Notation :=
    { isExtended := letter == byte 'E',foldsCase := options.has 'i' || options.has 'y',hasLooseEnds := letter == byte 'E' }
  match anyOf n (letter == byte 'F') given with
  | .error problem => Work.stop (text problem.sentence) 2
  | .ok pattern =>
    let c : Choice := ⟨pattern,options.has 'v',options.has 'x',options.has 'w'⟩
    let paths := Lines.sources operands
    let d : Display :=
      { showsNames := options.has 'H' || (1 < paths.length && !options.has 'h'),showsNumbers := options.has 'n'
        onlyParts := options.has 'o',before,behind,hasSurroundings := 0 < before || 0 < behind }
    let (isFound,_) ← paths.foldlM (fun (isFound,hasBefore) path => do
      let (found,shown) ← file c d options limit path hasBefore
      return (isFound || found,shown)) (false,false)
    if !isFound then Work.fails 1

end ScriptLauncher.Tool.Selection
