import ScriptLauncher.Yaml.Scalar

namespace ScriptLauncher.Yaml

-- The tokens of a YAML text and the readers of those that are names: anchors, tags and directives.
-- Where blocks begin and end, and which token is a key, follows from indentation; `TokenQueue`
-- finds that out.

inductive Token where
  | textStart
  | version (major minor : Nat)
  | tagHandle (handle : List Char) (start : Bytes)
  | documentStart
  | documentEnd
  | textEnd
  | blockSequence
  | blockMapping
  | blockEnd
  | flowSequence
  | flowSequenceEnd
  | flowMapping
  | flowMappingEnd
  | blockEntry
  | flowEntry
  | key
  | value
  | alias (name : List Char)
  | anchor (name : List Char)
  | tag (handle : List Char) (suffix : Bytes)
  | scalar (plain : Bool) (content : List Char)
  deriving DecidableEq, Repr

namespace Token

def boundsName (c : Char) : Bool :=
  endsWord c || ['?',':',',',']','\x7d','%','@','\x60'].contains c

def name? (c : Cursor) : Option (List Char × Cursor) :=
  match c.takeWhile isNameChar with
  | some (name,d) => if name.isEmpty || !boundsName d.peek then none else some (name,d)
  | none => none

def isUriChar (c : Char) : Bool :=
  isNameChar c ||
    [';','/','?',':','@','&','=','+','$',',','.','!','~','*','\'','(',')','[',
      ']'].contains c

def octet? (c : Cursor) : Option (UInt8 × Cursor) :=
  match c.require 3 with
  | none => none
  | some c =>
    match c.peek == '%',Numeral.hexDigit? (c.peekAt 1),Numeral.hexDigit? (c.peekAt 2) with
    | true,some h,some l => some (UInt8.ofNat (h * 16 + l),c.advance 3)
    | _,_,_ => none

def tailOctets? : Nat → Cursor → Option (Bytes × Cursor)
  | 0,c => some ([],c)
  | count + 1,c =>
    match octet? c with
    | some (b,d) =>
      if Utf8.isTail b then (tailOctets? count d).map fun (bs,e) => (b :: bs,e) else none
    | none => none

def escaped? (c : Cursor) : Option (Bytes × Cursor) :=
  match octet? c with
  | none => none
  | some (b,d) =>
    match Sample.width? b with
    | none => none
    | some width => (tailOctets? (width - 1) d).map fun (bs,e) => (b :: bs,e)

def uriRun : Nat → Bytes → Cursor → Option (Bytes × Cursor)
  | 0,seen,c => some (seen,c)
  | fuel + 1,seen,c =>
    let ch := c.peek
    let found : Option (Bytes × Cursor) :=
      if ch == '%' then escaped? c
      else some (String.utf8EncodeChar ch,c.pass)
    if ch == '%' || isUriChar ch then
      match found.bind fun (bs,d) => (d.require 1).map fun d => (bs,d) with
      | some (bs,d) => uriRun fuel (seen ++ bs) d
      | none => none
    else some (seen,c)

def uri (seen : Bytes) (c : Cursor) : Option (Bytes × Cursor) :=
  (c.require 1).bind fun c => uriRun c.bound seen c

def uri? (c : Cursor) : Option (Bytes × Cursor) :=
  match uri [] c with
  | some (bs,d) => if d.index == c.index then none else some (bs,d)
  | none => none

def handle (c : Cursor) : Option (List Char × Cursor) :=
  (c.pass.takeWhile isNameChar).map fun (name,d) =>
    if d.isAt '!' then ('!' :: name ++ ['!'],d.pass) else ('!' :: name,d)

def verbatim? (c : Cursor) : Option (Token × Cursor) :=
  match uri? (c.advance 2) with
  | some (bs,d) => if d.isAt '>' then some (.tag [] bs,d.pass) else none
  | none => none

def shorthand? (c : Cursor) : Option (Token × Cursor) :=
  match handle c with
  | none => none
  | some (h,d) =>
    if 1 < h.length && h.getLast? == some '!' then
      (uri? d).map fun (bs,e) => (.tag h bs,e)
    else
      (uri (Utf8.encode (h.drop 1)) d).map fun (bs,e) =>
        if bs.isEmpty then (.tag [] (text "!"),e) else (.tag ['!'] bs,e)

-- A tag, from its mark on. White space must follow it.
def tag? (c : Cursor) : Option (Token × Cursor) :=
  match c.require 2 with
  | none => none
  | some c =>
    match if c.peekAt 1 == '<' then verbatim? c else shorthand? c with
    | none => none
    | some (t,d) =>
      (d.require 1).bind fun d => if endsWord d.peek then some (t,d) else none

-- One part of a version: one or two digits.
def versionPart? (c : Cursor) : Option (Nat × Cursor) :=
  match c.takeWhile Numeral.isDigit with
  | none => none
  | some (digits,d) =>
    if digits.isEmpty || 2 < digits.length then none else some (Numeral.decimal digits,d)

def version? (c : Cursor) : Option (Token × Cursor) :=
  match c.skipBlanks.bind versionPart? with
  | none => none
  | some (major,d) =>
    if d.isAt '.' then (versionPart? d.pass).map fun (minor,e) => (.version major minor,e)
    else none

def tagHandle? (c : Cursor) : Option (Token × Cursor) :=
  match c.skipBlanks with
  | none => none
  | some c =>
    if !c.isAt '!' then none
    else match handle c with
      | none => none
      | some (h,d) =>
        if h.getLast? != some '!' then none
        else match d.skipBlanks with
          | none => none
          | some e =>
            if e.index == d.index then none
            else match uri? e with
              | some (bs,f) => if endsWord f.peek then some (.tagHandle h bs,f) else none
              | none => none

def directive? (c : Cursor) : Option (Token × Cursor) :=
  match c.pass.takeWhile isNameChar with
  | none => none
  | some (name,d) =>
    let found : Option (Token × Cursor) :=
      if !endsWord d.peek then none
      else if name == "YAML".toList then version? d
      else if name == "TAG".toList then tagHandle? d
      else none
    found.bind fun (t,e) => (Scalar.finishLine? e).map fun f => (t,f)

end Token

end ScriptLauncher.Yaml
