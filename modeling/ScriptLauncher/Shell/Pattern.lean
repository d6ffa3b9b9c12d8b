import ScriptLauncher.Text.ByteClass

namespace ScriptLauncher.Shell

-- Patterns of the shell. In a pattern a byte is escaped, and then means itself, or plain, and then
-- it can be one of the signs for any text, any byte and one byte of a set. A plain backslash, which
-- only the value of a variable can bring in, escapes the byte behind it.

abbrev Pattern := List (UInt8 × Bool)

namespace Pattern

inductive Member where
  | class_ (holds : UInt8 → Bool)
  | range (first last : UInt8)

def Member.holds (b : UInt8) : Member → Bool
  | .class_ holds => holds b
  | .range first last => first ≤ b && b ≤ last

inductive Atom where
  | anything
  | anyByte
  | literal (b : UInt8)
  | oneOf (inverted : Bool) (members : List Member)

def plainText (s : String) : Pattern := (text s).map fun b => (b,false)

def after? : Pattern → Pattern → Option Pattern
  | [],p => some p
  | a :: start,b :: p => if a == b then after? start p else none
  | _ :: _,[] => none

def class? (p : Pattern) : Option ((UInt8 → Bool) × Pattern) :=
  ByteClass.all.findSome? fun (name,holds) =>
    (after? ((byte ':',false) :: plainText name ++ plainText ":]") p).map fun rest =>
      (holds,rest)

def members? : Nat → Bool → Pattern → Option (List Member × Pattern)
  | 0,_,_ => none
  | _ + 1,_,[] => none
  | n + 1,isFirst,(b,escaped) :: p =>
    let more (m : Member) (p : Pattern) := (members? n false p).map fun (ms,rest) => (m :: ms,rest)
    if !isFirst && b == byte ']' && !escaped then some ([],p)
    else match if b == byte '[' && !escaped then class? p else none with
      | some (holds,rest) => more (.class_ holds) rest
      | none =>
        let (b,p) := match b == byte '\\' && !escaped,p with
          | true,(next,_) :: rest => (next,rest)
          | _,_ => (b,p)
        match p with
        | (hyphen,false) :: (last,lastEscaped) :: rest =>
          if hyphen == byte '-' && !(last == byte ']' && !lastEscaped) then
            match last == byte '\\' && !lastEscaped,rest with
            | true,(last,_) :: rest => more (.range b last) rest
            | _,_ => more (.range b last) rest
          else more (.range b b) p
        | _ => more (.range b b) p

-- A pattern as a list of what it asks for. A bracket that is not closed means itself.
def atoms : Nat → Pattern → List Atom
  | 0,_ => []
  | _ + 1,[] => []
  | n + 1,(b,true) :: p => .literal b :: atoms n p
  | n + 1,(b,false) :: p =>
    if b == byte '\\' then
      match p with
      | (next,_) :: rest => .literal next :: atoms n rest
      | [] => [.literal b]
    else if b == byte '?' then .anyByte :: atoms n p
    else if b == byte '*' then .anything :: atoms n p
    else if b == byte '[' then
      let (inverted,inside) := match p with
        | (sign,false) :: rest => if sign == byte '!' then (true,rest) else (false,p)
        | _ => (false,p)
      match members? (inside.length + 1) true inside with
      | some (members,rest) => .oneOf inverted members :: atoms n rest
      | none => .literal b :: atoms n p
    else .literal b :: atoms n p

def endings : Bytes → List Bytes
  | [] => [[]]
  | b :: s => (b :: s) :: endings s

def fits : List Atom → Bytes → Bool
  | [],s => s.isEmpty
  | .anything :: rest,s => (endings s).any (fits rest)
  | .anyByte :: rest,_ :: s => fits rest s
  | .literal b :: rest,c :: s => b == c && fits rest s
  | .oneOf inverted members :: rest,c :: s => (members.any (Member.holds c) != inverted) && fits rest s
  | _,[] => false

def matches_ (p : Pattern) (s : Bytes) : Bool := fits (atoms (p.length + 1) p) s

def closes : Pattern → Bool
  | [] => false
  | (b,escaped) :: p => (b == byte ']' && !escaped) || closes p

def hasSigns : Pattern → Bool
  | [] => false
  | (b,escaped) :: p =>
    (!escaped && (b == byte '*' || b == byte '?' || (b == byte '[' && closes (p.drop 1)))) || hasSigns p

def literal : Pattern → Bytes
  | [] => []
  | (b,escaped) :: p =>
    if b == byte '\\' && !escaped then
      match p with
      | (next,_) :: rest => next :: literal rest
      | [] => [b]
    else b :: literal p

def components : Pattern → List Pattern
  | [] => [[]]
  | (b,escaped) :: p =>
    if b == Bytes.slash then [] :: components p
    else match components p with
      | [] => [[(b,escaped)]]
      | first :: rest => ((b,escaped) :: first) :: rest

-- The paths that exist and fit the components, from the path walked so far. Names that begin with a
-- dot are found only by a component that does.
def walk (names : Bytes → List Bytes) (exists_ : Bytes → Bool) : Bytes → List Pattern → List Bytes
  | _,[] => []
  | before,[last] =>
    if hasSigns last then
      (found names before last).map (before ++ ·)
    else
      let path := before ++ literal last
      if exists_ path then [path] else []
  | before,part :: rest =>
    if hasSigns part then
      (found names before part).flatMap fun name => walk names exists_ (before ++ name ++ [Bytes.slash]) rest
    else walk names exists_ (before ++ literal part ++ [Bytes.slash]) rest
where
  found (names : Bytes → List Bytes) (before : Bytes) (part : Pattern) : List Bytes :=
    let showsHidden := (literal part).head? == some (byte '.')
    (names before).filter fun name =>
      (name.head? != some (byte '.') || showsHidden) && part.matches_ name

-- The paths that a pattern stands for, in order; none where it has no signs.
def paths (names : Bytes → List Bytes) (exists_ : Bytes → Bool) (p : Pattern) : List Bytes :=
  let parts := components p
  if parts.any hasSigns then (walk names exists_ [] parts).mergeSort Bytes.le else []

end Pattern

end ScriptLauncher.Shell
