import ScriptLauncher.Yaml.TokenQueue

namespace ScriptLauncher.Yaml

-- The first document of a YAML text as a tree. The tree keeps what the document says: tags, whether
-- a scalar is plain, and aliases by the number of their anchor, because an alias may stand inside
-- the very node that it names.

inductive Node where
  -- The tag is in its short form; a scalar without one has its tag from its text.
  | scalar (tag : Option Bytes) (plain : Bool) (content : List Char)
  | sequence (items : List Node)
  | mapping (entries : List (Node × Node))
  | alias (name : List Char) (number own : Nat)

def Node.absent : Node := .scalar none true []

-- A document: its root, and the nodes that have an anchor by the number of the anchor.
structure Document where
  root : Node
  anchored : List (Nat × Node)
  aliases : Nat

-- What is left to read, and the anchors and aliases met so far, the newest anchor first. An anchor
-- or an alias has its number from its place in their order.
structure Progress where
  reading : Reading
  anchors : List (List Char)
  aliases : Nat
  anchored : List (Nat × Node)

abbrev Reader := StateT Progress Option

namespace Reader

def peek : Reader Token := fun p =>
  p.reading.peek.map fun (t,reading) => (t,{ p with reading })

def skip : Reader Unit := fun p => some ((),{ p with reading := p.reading.skip })

def refuse {α : Type} : Reader α := fun _ => none

-- An anchor's number. A name counts from its latest anchor on.
def declare (name : List Char) : Reader Nat := fun p =>
  some (p.anchors.length,{ p with anchors := name :: p.anchors })

def resolve (name : List Char) : Reader Node := fun p =>
  let later := (p.anchors.takeWhile (· != name)).length
  if later < p.anchors.length then
    some (.alias name (p.anchors.length - 1 - later) p.aliases,{ p with aliases := p.aliases + 1 })
  else none

def record (number : Option Nat) (node : Node) : Reader Node := fun p =>
  match number with
  | some n => some (node,{ p with anchored := (n,node) :: p.anchored })
  | none => some (node,p)

end Reader

abbrev Handles := List (List Char × Bytes)

def standardTags : Bytes := text "tag:yaml.org,2002:"

def Handles.standard : Handles := [(['!'],text "!"),(['!','!'],standardTags)]

-- A tag with its handle spelled out, and then in its short form: two marks before a standard name.
-- One mark alone is no tag.
def Handles.tag? (handles : Handles) (handle : List Char) (suffix : Bytes) :
    Option (Option Bytes) :=
  let full? := if handle.isEmpty then some suffix
    else (handles.find? (·.1 == handle)).map fun (_,start) => start ++ suffix
  full?.map fun full =>
    if full == text "!" then none
    else match Bytes.after? standardTags full with
      | some name => some (text "!!" ++ name)
      | none => some full

structure Properties where
  anchor : Option Nat
  tag : Option Bytes
  isEmpty : Bool

namespace Properties

def anchor? : Reader (Option Nat) := do
  match ← Reader.peek with
  | .anchor name => Reader.skip; return some (← Reader.declare name)
  | _ => return none

-- The tag at hand: whether there is one, and what it says.
def tag? (handles : Handles) : Reader (Bool × Option Bytes) := do
  match ← Reader.peek with
  | .tag handle suffix =>
    match handles.tag? handle suffix with
    | some tag => Reader.skip; return (true,tag)
    | none => Reader.refuse
  | _ => return (false,none)

def read (handles : Handles) : Reader Properties := do
  let first ← anchor?
  let (tagged,tag) ← tag? handles
  let second ← if tagged && first.isNone then anchor? else pure none
  let anchor := first <|> second
  return { anchor,tag,isEmpty := anchor.isNone && !tagged }

end Properties

-- Where a node stands: what ends it when it is left out, and which collections it may be.
structure Place where
  block : Bool
  indentless : Bool

namespace Node

mutual

-- A node. Fuel bounds the tokens and the depth together.
def read (handles : Handles) : Nat → Place → Reader Node
  | 0,_ => Reader.refuse
  | fuel + 1,place => do
    match ← Reader.peek with
    | .alias name => Reader.skip; Reader.resolve name
    | _ =>
      let properties ← Properties.read handles
      let node ← match ← Reader.peek with
        | .blockEntry =>
          if place.indentless then Node.sequence <$> indentlessItems handles fuel
          else if properties.isEmpty then Reader.refuse
          else pure (.scalar properties.tag true [])
        | .scalar plain content =>
          Reader.skip
          pure (.scalar properties.tag plain content)
        | .flowSequence => Reader.skip; Node.sequence <$> flowItems handles fuel true
        | .flowMapping => Reader.skip; Node.mapping <$> flowEntries handles fuel true
        | .blockSequence =>
          if place.block then Reader.skip; Node.sequence <$> blockItems handles fuel
          else if properties.isEmpty then Reader.refuse
          else pure (.scalar properties.tag true [])
        | .blockMapping =>
          if place.block then Reader.skip; Node.mapping <$> blockEntries handles fuel
          else if properties.isEmpty then Reader.refuse
          else pure (.scalar properties.tag true [])
        | _ =>
          if properties.isEmpty then Reader.refuse else pure (.scalar properties.tag true [])
      Reader.record properties.anchor node

def readUnless (handles : Handles) : Nat → (Token → Bool) → Place → Reader Node
  | 0,_,_ => Reader.refuse
  | fuel + 1,ends,place => do
    if ends (← Reader.peek) then return .absent else read handles fuel place

def blockItems (handles : Handles) : Nat → Reader (List Node)
  | 0 => Reader.refuse
  | fuel + 1 => do
    match ← Reader.peek with
    | .blockEntry =>
      Reader.skip
      let item ← readUnless handles fuel (fun t => t == .blockEntry || t == .blockEnd) ⟨true,false⟩
      return item :: (← blockItems handles fuel)
    | .blockEnd => Reader.skip; return []
    | _ => Reader.refuse

-- Items of a sequence that is not indented against its key. It ends where no hyphen follows.
def indentlessItems (handles : Handles) : Nat → Reader (List Node)
  | 0 => Reader.refuse
  | fuel + 1 => do
    match ← Reader.peek with
    | .blockEntry =>
      Reader.skip
      let item ← readUnless handles fuel
        (fun t => t == .blockEntry || t == .key || t == .value || t == .blockEnd) ⟨true,false⟩
      return item :: (← indentlessItems handles fuel)
    | _ => return []

-- Entries of a block mapping to its end. A key may lack its value.
def blockEntries (handles : Handles) : Nat → Reader (List (Node × Node))
  | 0 => Reader.refuse
  | fuel + 1 => do
    match ← Reader.peek with
    | .key =>
      Reader.skip
      let ends : Token → Bool := fun t => t == .key || t == .value || t == .blockEnd
      let name ← readUnless handles fuel ends ⟨true,true⟩
      let content ← match ← Reader.peek with
        | .value => Reader.skip; readUnless handles fuel ends ⟨true,true⟩
        | _ => pure .absent
      return (name,content) :: (← blockEntries handles fuel)
    | .blockEnd => Reader.skip; return []
    | _ => Reader.refuse

-- Items of a sequence in brackets to the closing one. An item with a key is a mapping of one entry;
-- if its key is left out, the token after the key mark is passed over whatever it is.
def flowItems (handles : Handles) : Nat → Bool → Reader (List Node)
  | 0,_ => Reader.refuse
  | fuel + 1,first => do
    if (← Reader.peek) == .flowSequenceEnd then Reader.skip; return []
    if !first then
      if (← Reader.peek) == .flowEntry then Reader.skip else Reader.refuse
    match ← Reader.peek with
    | .flowSequenceEnd => Reader.skip; return []
    | .key =>
      Reader.skip
      let ends : Token → Bool := fun t => t == .flowEntry || t == .flowSequenceEnd
      let next ← Reader.peek
      let name ← if next == .value || ends next then Reader.skip; pure .absent
        else read handles fuel ⟨false,false⟩
      let content ← match ← Reader.peek with
        | .value => Reader.skip; readUnless handles fuel ends ⟨false,false⟩
        | _ => pure .absent
      return .mapping [(name,content)] :: (← flowItems handles fuel false)
    | _ =>
      let item ← read handles fuel ⟨false,false⟩
      return item :: (← flowItems handles fuel false)

-- Entries of a mapping in braces to the closing one. A node without a key mark is a key without a
-- value.
def flowEntries (handles : Handles) : Nat → Bool → Reader (List (Node × Node))
  | 0,_ => Reader.refuse
  | fuel + 1,first => do
    if (← Reader.peek) == .flowMappingEnd then Reader.skip; return []
    if !first then
      if (← Reader.peek) == .flowEntry then Reader.skip else Reader.refuse
    match ← Reader.peek with
    | .flowMappingEnd => Reader.skip; return []
    | .key =>
      Reader.skip
      let ends : Token → Bool := fun t => t == .flowEntry || t == .flowMappingEnd
      let name ← readUnless handles fuel (fun t => t == .value || ends t) ⟨false,false⟩
      let content ← match ← Reader.peek with
        | .value => Reader.skip; readUnless handles fuel ends ⟨false,false⟩
        | _ => pure .absent
      return (name,content) :: (← flowEntries handles fuel false)
    | _ =>
      let name ← read handles fuel ⟨false,false⟩
      return (name,.absent) :: (← flowEntries handles fuel false)

end

end Node

namespace Document

-- Directives before a document: at most one version, and handles that are all different.
def directives : Nat → Bool → Handles → Reader Handles
  | 0,_,_ => Reader.refuse
  | fuel + 1,versioned,handles => do
    match ← Reader.peek with
    | .version major minor =>
      if versioned || major != 1 || minor != 1 then Reader.refuse
      else Reader.skip; directives fuel true handles
    | .tagHandle handle start =>
      if handles.any (·.1 == handle) then Reader.refuse
      else Reader.skip; directives fuel versioned (handles ++ [(handle,start)])
    | _ => return handles

def announces : Token → Bool
  | .version _ _ => true
  | .tagHandle _ _ => true
  | .documentStart => true
  | _ => false

-- The root of the first document, nothing if the text holds none. A document that is announced has
-- the mark at its start, and after the mark its root may be left out.
def readRoot (fuel : Nat) : Reader (Option Node) := do
  let next ← Reader.peek
  if next == .textEnd then return none
  else if announces next then
    let handles ← directives fuel false []
    if (← Reader.peek) != .documentStart then Reader.refuse
    else
      Reader.skip
      let ends : Token → Bool := fun t => announces t || t == .documentEnd || t == .textEnd
      some <$> Node.readUnless (handles ++ .standard) fuel ends ⟨true,false⟩
  else some <$> Node.read .standard fuel ⟨true,false⟩

def steps (data : Bytes) : Nat := 16 * data.length + 64

-- The first document of a text. What follows the document is only looked at to see that it has
-- ended.
def ofBytes? (data : Bytes) : Option (Option Document) :=
  let reader : Reader (Option Node) := do
    let _ ← Reader.peek
    Reader.skip
    match ← readRoot (steps data) with
    | none => return none
    | some root => let _ ← Reader.peek; return some root
  match (Reading.start data).bind fun reading => reader ⟨reading,[],0,[]⟩ with
  | some (some root,p) => some (some ⟨root,p.anchored,p.aliases⟩)
  | some (none,_) => some none
  | none => none

end Document

end ScriptLauncher.Yaml
