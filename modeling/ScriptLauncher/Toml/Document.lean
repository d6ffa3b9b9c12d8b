import ScriptLauncher.Settings.Raw
import ScriptLauncher.Toml.Scalar

namespace ScriptLauncher.Toml

-- TOML documents. Statements are read one after the other into a tree of tables; the tree remembers
-- how each table came about, because that decides what may still be added to it. A header opens a
-- table once, dotted keys open tables that no header may open again, and a value is final.

inductive Tree where
  | value (raw : Raw)
  -- `opened`: a header or a finished group of dotted keys has taken it. `dotted`: made by dotted
  -- keys under the header still in force.
  | table (opened dotted : Bool) (children : List (Bytes × Tree))
  | elements (children : List (Bytes × Tree))

abbrev Children := List (Bytes × Tree)

namespace Children

def get? (children : Children) (name : Bytes) : Option Tree :=
  (children.find? (·.1 == name)).map (·.2)

def put (children : Children) (name : Bytes) (tree : Tree) : Children :=
  if children.any (·.1 == name) then
    children.map fun (n,t) => if n == name then (n,tree) else (n,t)
  else children ++ [(name,tree)]

def define (raw : Raw) : List Bytes → Children → Option Children
  | [],_ => none
  | [name],children =>
    match children.get? name with
    | some _ => none
    | none => some (children.put name (.value raw))
  | name :: rest,children =>
    match children.get? name with
    | none => (define raw rest []).map fun sub => children.put name (.table false true sub)
    | some (.table false dotted sub) =>
      (define raw rest sub).map fun sub => children.put name (.table false dotted sub)
    | some _ => none

def header (last : Bytes → Children → Option Children) : List Bytes → Children → Option Children
  | [],_ => none
  | [name],children => last name children
  | name :: rest,children =>
    match children.get? name with
    | none => (header last rest []).map fun sub => children.put name (.table false false sub)
    | some (.table opened dotted sub) =>
      (header last rest sub).map fun sub => children.put name (.table opened dotted sub)
    | some (.elements sub) => (header last rest sub).map fun sub => children.put name (.elements sub)
    | some (.value _) => none

def openTable (name : Bytes) (children : Children) : Option Children :=
  match children.get? name with
  | none => some (children.put name (.table true false []))
  | some (.table false dotted sub) => some (children.put name (.table true dotted sub))
  | some _ => none

def openElement (name : Bytes) (children : Children) : Option Children :=
  match children.get? name with
  | none => some (children.put name (.elements []))
  | some (.elements _) => some (children.put name (.elements []))
  | some _ => none

def within (change : Children → Option Children) : List Bytes → Children → Option Children
  | [],children => change children
  | name :: rest,children =>
    match children.get? name with
    | some (.table opened dotted sub) =>
      (within change rest sub).map fun sub => children.put name (.table opened dotted sub)
    | some (.elements sub) => (within change rest sub).map fun sub => children.put name (.elements sub)
    | _ => none

end Children

mutual

def Tree.settle : Tree → Tree
  | .value raw => .value raw
  | .table opened dotted children => .table (opened || dotted) false (settleAll children)
  | .elements children => .elements (settleAll children)

def settleAll : List (Bytes × Tree) → List (Bytes × Tree)
  | [] => []
  | (name,tree) :: rest => (name,tree.settle) :: settleAll rest

end

mutual

def Tree.toRaw : Tree → Raw
  | .value raw => raw
  | .table _ _ children => .table (rawOfAll children)
  | .elements _ => .other

def rawOfAll : List (Bytes × Tree) → RawTable
  | [] => []
  | (name,tree) :: rest => (name,tree.toRaw) :: rawOfAll rest

end

mutual

-- The value at the start of a text. Fuel bounds nesting and length together.
def value? : Nat → List Char → Option (Raw × List Char)
  | 0,_ => none
  | fuel + 1,s =>
    match s with
    | [] => none
    | '"' :: _ => (string? s).map fun (cs,rest) => (.text (Utf8.encode cs),rest)
    | '\'' :: _ => (string? s).map fun (cs,rest) => (.text (Utf8.encode cs),rest)
    | 't' :: 'r' :: 'u' :: 'e' :: rest => some (.flag true,rest)
    | 'f' :: 'a' :: 'l' :: 's' :: 'e' :: rest => some (.flag false,rest)
    | '[' :: rest => items? fuel true rest
    | '\x7b' :: rest => inline? fuel true [] rest
    | _ => (afterScalar? s).map fun rest => (.other,rest)

-- The rest of an array. A comma may stand behind the last item.
def items? : Nat → Bool → List Char → Option (Raw × List Char)
  | 0,_,_ => none
  | fuel + 1,first,s =>
    match skipFiller false s with
    | [] => none
    | ']' :: rest => some (.other,rest)
    | ',' :: rest =>
      if first then none
      else match skipFiller false rest with
        | ']' :: rest => some (.other,rest)
        | item => (value? fuel item).bind fun (_,rest) => items? fuel false rest
    | item =>
      if first then (value? fuel item).bind fun (_,rest) => items? fuel false rest else none

-- The rest of an inline table. No comma may stand behind the last entry.
def inline? : Nat → Bool → Children → List Char → Option (Raw × List Char)
  | 0,_,_,_ => none
  | fuel + 1,first,children,s =>
    match first,skipBlanks s with
    | _,'\x7d' :: rest => some (.table (rawOfAll children),rest)
    | true,entry => entry? fuel children entry
    | false,',' :: rest => entry? fuel children (skipBlanks rest)
    | false,_ => none

def entry? : Nat → Children → List Char → Option (Raw × List Char)
  | 0,_,_ => none
  | fuel + 1,children,s =>
    match keyValue? fuel s with
    | none => none
    | some (path,raw,rest) =>
      match children.define raw path with
      | none => none
      | some more => inline? fuel false more rest

def keyValue? : Nat → List Char → Option (List Bytes × Raw × List Char)
  | 0,_ => none
  | fuel + 1,s =>
    match key? (s.length + 1) s with
    | some (path,'=' :: rest) =>
      (value? fuel (skipBlanks rest)).map fun (raw,rest) => (path,raw,rest)
    | _ => none

end

-- A document as far as it has been read: all tables, and where the header in force points.
structure Document where
  tables : Children
  current : List Bytes

namespace Document

def openAt (change : List Bytes → Children → Option Children) (path : List Bytes) (doc : Document) :
    Option Document :=
  match doc.tables.within (fun children => some (settleAll children)) doc.current with
  | none => none
  | some settled => (change path settled).map fun tables => ⟨tables,path⟩

def addValue (path : List Bytes) (raw : Raw) (doc : Document) : Option Document :=
  (doc.tables.within (Children.define raw path) doc.current).map fun tables => { doc with tables }

def headerKey? (close : List Char) (s : List Char) : Option (List Bytes × List Char) :=
  match key? (s.length + 1) (skipBlanks s) with
  | none => none
  | some (path,rest) =>
    if rest.take close.length == close then some (path,rest.drop close.length) else none

def statement? (doc : Document) (s : List Char) : Option (Document × List Char) :=
  match s with
  | '[' :: '[' :: rest =>
    (headerKey? [']',']'] rest).bind fun (path,rest) =>
      (doc.openAt (Children.header Children.openElement) path).map fun doc => (doc,rest)
  | '[' :: rest =>
    (headerKey? [']'] rest).bind fun (path,rest) =>
      (doc.openAt (Children.header Children.openTable) path).map fun doc => (doc,rest)
  | _ =>
    (keyValue? (2 * s.length + 4) s).bind fun (path,raw,rest) =>
      (doc.addValue path raw).map fun doc => (doc,rest)

-- Past a comment, at the end of a line; nothing if something else stands there.
def endOfLine? (s : List Char) : Option (List Char) :=
  let rest :=
    match skipBlanks s with
    | '#' :: more => skipLine more
    | other => other
  match rest with
  | [] => some []
  | '\n' :: more => some more
  | '\r' :: more => some (more.drop 1)
  | _ => none

-- Statements line by line. Each line takes at least its end, so the length is fuel enough.
def lines? : Nat → Document → List Char → Option Document
  | 0,_,_ => none
  | _ + 1,doc,[] => some doc
  | fuel + 1,doc,c :: s =>
    match skipBlanks (c :: s) with
    | [] => some doc
    | start :: more =>
      if start == '#' || start == '\n' || start == '\r' then
        (endOfLine? (start :: more)).bind (lines? fuel doc)
      else
        (doc.statement? (start :: more)).bind fun (doc,rest) =>
          (endOfLine? rest).bind (lines? fuel doc)

end Document

def decode (data : Bytes) : Except Bytes RawTable :=
  match (characters? data).bind fun cs => Document.lines? (cs.length + 1) ⟨[],[]⟩ cs with
  | some doc => .ok (rawOfAll doc.tables)
  | none => .error (text "malformed TOML document")

end ScriptLauncher.Toml
