import ScriptLauncher.Text.Regex

namespace ScriptLauncher.Regex

-- How regular expressions are written. In the basic notation parentheses, braces and bars have
-- their meaning behind a backslash, in the extended notation without one. Both are read into the
-- same tokens.

inductive Problem where
  | bracket
  | opening
  | closing
  | brace
  | content
  | range
  | class_
  | backslash
  | reference
  | expression
  deriving DecidableEq

def Problem.sentence : Problem → String
  | .bracket => "Unmatched [, [^, [:, [., or [="
  | .opening => "Unmatched ( or \\("
  | .closing => "Unmatched ) or \\)"
  | .brace => "Unmatched \\\x7b"
  | .content => "Invalid content of \\\x7b\\\x7d"
  | .range => "Invalid range end"
  | .class_ => "Invalid character class name"
  | .backslash => "Trailing backslash"
  | .reference => "Invalid back reference"
  | .expression => "Invalid regular expression"

structure Notation where
  isExtended : Bool
  foldsCase : Bool := false
  hasEscapes : Bool := false
  hasLooseEnds : Bool := false

inductive Token where
  | one (holds : UInt8 → Bool)
  | edge (kind : Edge)
  | again (number : Nat)
  | opening
  | closing
  | bar
  | times (least : Nat) (most : Option Nat)

def escapes : List (UInt8 × UInt8) :=
  [(byte 'a',7),(byte 'f',12),(byte 'n',10),(byte 'r',13),(byte 't',9),(byte 'v',11)]

namespace Notation

def folded (n : Notation) (holds : UInt8 → Bool) : UInt8 → Bool :=
  if n.foldsCase then fun b => holds b || holds (ByteClass.swapped b) else holds

def literal (n : Notation) (b : UInt8) : Token := .one (n.folded (· == b))

def setByte? (n : Notation) : Bytes → Except Problem (UInt8 × Bytes)
  | 91 :: 46 :: b :: 46 :: 93 :: rest => .ok (b,rest)
  | 92 :: b :: rest =>
    if n.hasEscapes then match escapes.lookup b with
      | some meant => .ok (meant,rest)
      | none => .ok (92,b :: rest)
    else .ok (92,b :: rest)
  | b :: rest => .ok (b,rest)
  | [] => .error .bracket

def setClass? (s : Bytes) : Except Problem ((UInt8 → Bool) × Bytes) :=
  let name := s.takeWhile (· != byte ':')
  match s.drop name.length with
  | 58 :: 93 :: rest =>
    match ByteClass.named? name with
    | some holds => .ok (holds,rest)
    | none => .error .class_
  | _ => .error .bracket

def setMembers (n : Notation) : Nat → Bool → Bytes → Except Problem (List (UInt8 → Bool) × Bytes)
  | 0,_,_ => .error .bracket
  | _ + 1,_,[] => .error .bracket
  | fuel + 1,isFirst,s => do
    match s with
    | 91 :: 58 :: rest =>
      let (holds,rest) ← setClass? rest
      let (others,rest) ← setMembers n fuel false rest
      return (holds :: others,rest)
    | 91 :: 61 :: b :: 61 :: 93 :: rest =>
      let (others,rest) ← setMembers n fuel false rest
      return ((· == b) :: others,rest)
    | _ =>
      if s.head? == some 93 && !isFirst then return ([],s.drop 1)
      let (first,rest) ← n.setByte? s
      match rest with
      | 45 :: c :: behind =>
        if c == 93 then
          let (others,rest) ← setMembers n fuel false rest
          return ((· == first) :: others,rest)
        else
          let (last,rest) ← n.setByte? (c :: behind)
          if last < first then .error .range
          else
            let (others,rest) ← setMembers n fuel false rest
            return ((fun b => first ≤ b && b ≤ last) :: others,rest)
      | _ =>
        let (others,rest) ← setMembers n fuel false rest
        return ((· == first) :: others,rest)

def set? (n : Notation) (s : Bytes) : Except Problem (Token × Bytes) := do
  if s.isEmpty then .error .expression
  let isInverse := s.head? == some (byte '^')
  let (members,rest) ← n.setMembers (s.length + 1) true (if isInverse then s.drop 1 else s)
  let holds := n.folded fun b => members.any fun holds => holds b
  return (.one fun b => holds b != isInverse,rest)

def sign (n : Notation) (b : UInt8) : Token :=
  let edges : List (Char × Edge) :=
    [('<',.wordStart),('>',.wordStop),('b',.wordSide),('B',.noWordSide),('\x60',.start),('\'',.stop)]
  let classes : List (Char × (UInt8 → Bool)) :=
    [('w',ByteClass.isWord),('W',fun b => !ByteClass.isWord b),('s',ByteClass.isSpace),
      ('S',fun b => !ByteClass.isSpace b)]
  match edges.find? (byte ·.1 == b),classes.find? (byte ·.1 == b) with
  | some (_,kind),_ => .edge kind
  | _,some (_,holds) => .one holds
  | _,_ =>
    if 49 ≤ b && b ≤ 57 then .again (b.toNat - 48)
    else n.literal (if n.hasEscapes then (escapes.lookup b).getD b else b)

def number (digits : Bytes) : Nat := digits.foldl (fun n b => n * 10 + (b.toNat - 48)) 0

def interval? (closing s : Bytes) : Except Problem (Token × Bytes) :=
  let least := s.takeWhile ByteClass.isDigit
  let behind := s.drop least.length
  match behind with
  | 44 :: more =>
    let most := more.takeWhile ByteClass.isDigit
    match Bytes.after? closing (more.drop most.length) with
    | none => .error (if (more.drop most.length).isEmpty then .brace else .content)
    | some rest =>
      if !most.isEmpty && number most < number least then .error .content
      else .ok (.times (number least) (if most.isEmpty then none else some (number most)),rest)
  | _ =>
    match Bytes.after? closing behind with
    | none => .error (if behind.isEmpty then .brace else .content)
    | some rest =>
      if least.isEmpty then .error .content else .ok (.times (number least) (some (number least)),rest)

end Notation

-- Where in a basic expression a sign stands, which decides whether it has a meaning.
inductive Standing where
  | first
  | second
  | inside
  deriving DecidableEq

def Notation.basic (n : Notation) : Nat → Standing → Bytes → Except Problem (List Token)
  | 0,_,_ => .ok []
  | _ + 1,_,[] => .ok []
  | _ + 1,_,[92] => .error .backslash
  | fuel + 1,at_,92 :: b :: rest => do
    if b == byte '(' then return .opening :: (← basic n fuel .first rest)
    else if b == byte ')' then return .closing :: (← basic n fuel .inside rest)
    else if b == byte '|' then return .bar :: (← basic n fuel .first rest)
    else if at_ != .first && b == byte '\x7b' then
      let (times,rest) ← Notation.interval? (text "\\\x7d") rest
      return times :: (← basic n fuel .inside rest)
    else if at_ != .first && b == byte '+' then return .times 1 none :: (← basic n fuel .inside rest)
    else if at_ != .first && b == byte '?' then return .times 0 (some 1) :: (← basic n fuel .inside rest)
    else return n.sign b :: (← basic n fuel .inside rest)
  | fuel + 1,at_,b :: rest => do
    if b == byte '*' && at_ == .inside then return .times 0 none :: (← basic n fuel .inside rest)
    else if b == byte '^' && at_ == .first then return .edge .start :: (← basic n fuel .second rest)
    else if b == byte '$' && (rest.isEmpty || (text "\\)").isPrefixOf rest || (text "\\|").isPrefixOf rest) then
      return .edge .stop :: (← basic n fuel .inside rest)
    else if b == byte '.' then return .one (fun _ => true) :: (← basic n fuel .inside rest)
    else if b == byte '[' then
      let (set,rest) ← n.set? rest
      return set :: (← basic n fuel .inside rest)
    else return n.literal b :: (← basic n fuel .inside rest)

-- The tokens of an extended expression. A brace that holds no numbers stands for itself.
def Notation.extended (n : Notation) : Nat → Bytes → Except Problem (List Token)
  | 0,_ => .ok []
  | _ + 1,[] => .ok []
  | _ + 1,[92] => .error .backslash
  | fuel + 1,92 :: b :: rest => return n.sign b :: (← extended n fuel rest)
  | fuel + 1,b :: rest => do
    let signs : List (Char × Token) :=
      [('(',.opening),(')',.closing),('|',.bar),('*',.times 0 none),('+',.times 1 none),
        ('?',.times 0 (some 1)),('^',.edge .start),('$',.edge .stop),('.',.one fun _ => true)]
    match signs.find? (byte ·.1 == b) with
    | some (_,token) => return token :: (← extended n fuel rest)
    | none =>
      if b == byte '[' then
        let (set,rest) ← n.set? rest
        return set :: (← extended n fuel rest)
      else match if b == byte '\x7b' then Notation.interval? (text "\x7d") rest else .error .content with
        | .ok (times,rest) => return times :: (← extended n fuel rest)
        | .error _ => return n.literal b :: (← extended n fuel rest)

structure Pending where
  tokens : List Token
  groups : Nat

abbrev Building := StateT Pending (Except Problem)

namespace Building

def skip : Building Unit := modify fun p => { p with tokens := p.tokens.drop 1 }

def repetitions : Nat → Regex → Building Regex
  | 0,part => return part
  | fuel + 1,part => do
    match (← get).tokens with
    | .times least most :: _ =>
      skip
      repetitions fuel (.repeated part least most)
    | _ => return part

mutual

def choice (foldsCase : Bool) : Nat → Building Regex
  | 0 => throw .opening
  | fuel + 1 => do
    let first ← sequence foldsCase fuel
    match (← get).tokens with
    | .bar :: _ =>
      skip
      return .choice first (← choice foldsCase fuel)
    | _ => return first

def sequence (foldsCase : Bool) : Nat → Building Regex
  | 0 => throw .opening
  | fuel + 1 => do
    match (← get).tokens with
    | [] | .bar :: _ | .closing :: _ => return .nothing
    | token :: rest =>
      let part ← part foldsCase fuel token
      let part ← repetitions (rest.length + 1) part
      return .sequence part (← sequence foldsCase fuel)

def part (foldsCase : Bool) : Nat → Token → Building Regex
  | 0,_ => throw .opening
  | fuel + 1,token => do
    match token with
    | .one holds => skip; return .one holds
    | .edge kind => skip; return .edge kind
    | .again number =>
      skip
      if (← get).groups < number then throw .reference
      return .again number foldsCase
    | .opening =>
      skip
      let number := (← get).groups + 1
      modify fun p => { p with groups := number }
      let body ← choice foldsCase fuel
      match (← get).tokens with
      | .closing :: _ =>
        skip
        return .group number body
      | _ => throw .opening
    | _ => return .nothing

end

end Building

def Notation.loosened (n : Notation) : Nat → List Token → List Token
  | _,[] => []
  | depth,.opening :: rest => .opening :: loosened n (depth + 1) rest
  | 0,.closing :: rest => n.literal (byte ')') :: loosened n 0 rest
  | depth + 1,.closing :: rest => .closing :: loosened n depth rest
  | depth,token :: rest => token :: loosened n depth rest

def read (n : Notation) (s : Bytes) : Except Problem (Regex × Nat) := do
  let tokens ← if n.isExtended then n.extended (s.length + 1) s else n.basic (s.length + 1) .first s
  let tokens := if n.hasLooseEnds then n.loosened 0 tokens else tokens
  let (regex,left) ← (Building.choice n.foldsCase (3 * tokens.length + 3)).run ⟨tokens,0⟩
  if left.tokens.isEmpty then return (regex,left.groups) else .error .closing

end ScriptLauncher.Regex
