import ScriptLauncher.Settings.Raw
import ScriptLauncher.Yaml.Node
import ScriptLauncher.Yaml.Value

namespace ScriptLauncher.Yaml

-- YAML documents as tables. The root is a table whose keys are taken by their spelling; a mapping
-- below it is a table if all its keys are texts. Aliases are followed, and a mapping may take
-- entries from others under the merge key. Each mapping has its keys once.

structure Effort where
  visits : Nat
  repeated : Nat

-- Whether too much of the work is repetition. The tolerated share falls from 99 to 10 percent as
-- the work grows.
def Effort.isExcessive (e : Effort) : Bool :=
  100 < e.repeated && 1000 < e.visits &&
    if e.visits ≤ 400000 then e.visits * 99 < e.repeated * 100
    else if 4000000 ≤ e.visits then e.visits < e.repeated * 10
    else e.visits * (99 * 3600000 - 89 * (e.visits - 400000)) < e.repeated * 360000000

abbrev Decoder := StateT Effort Option

namespace Decoder

def refuse {α : Type} : Decoder α := fun _ => none

def visit (isRepeated : Bool) : Decoder Unit := fun e =>
  let e : Effort := ⟨e.visits + 1,e.repeated + if isRepeated then 1 else 0⟩
  if e.isExcessive then none else some ((),e)

def given {α : Type} (a : Option α) : Decoder α := fun e => a.map fun a => (a,e)

end Decoder

namespace Node

def mergeMark : List Char := ['<','<']

def isMerge : Node → Bool
  | .scalar none plain content => plain && content == mergeMark
  | .scalar (some tag) _ content => content == mergeMark && tag == Tag.merge
  | _ => false

def isSameKey : Node → Node → Bool
  | .scalar _ _ a,.scalar _ _ b => a == b
  | .alias a _ _,.alias b _ _ => a == b
  | .sequence _,.sequence _ => true
  | .mapping _,.mapping _ => true
  | _,_ => false

def hasRepeatedKey : List (Node × Node) → Bool
  | [] => false
  | (key,_) :: rest => rest.any (fun (other,_) => key.isSameKey other) || hasRepeatedKey rest

end Node

namespace Document

def target? (d : Document) (number : Nat) : Option Node :=
  (d.anchored.find? (·.1 == number)).map (·.2)

def follow (d : Document) : Node → Node
  | .alias name number own => (d.target? number).getD (.alias name number own)
  | node => node

-- Whether a key is a text by its tag. The merge key counts as one.
def isTextKey (d : Document) (key : Node) : Bool :=
  match d.follow key with
  | .scalar none plain content =>
    !plain || content == Node.mergeMark || (Value.ofText true content).isText
  | .scalar (some tag) _ _ => tag == Tag.string || tag == Tag.merge
  | _ => false

-- A scalar used as a key, with the visits that it takes. Collections are no keys.
def key (d : Document) (isRepeated : Bool) : Node → Decoder (Value × List Char)
  | .scalar tag plain content => do
    Decoder.visit isRepeated
    return (← Decoder.given (Value.ofScalar? tag plain content),content)
  | .alias _ number _ => do
    Decoder.visit isRepeated
    match d.target? number with
    | some (.scalar tag plain content) =>
      Decoder.visit true
      return (← Decoder.given (Value.ofScalar? tag plain content),content)
    | _ => Decoder.refuse
  | _ => Decoder.refuse

-- The key as a table has it: texts and bytes as they are, all else by its spelling. In a table null
-- is no key.
def tableKey? : Value × List Char → Option Value
  | (.null,_) => none
  | (.text value,_) => some (.text value)
  | (_,spelling) => some (.text (Utf8.encode spelling))

-- Sets an entry of a table. Only texts are keys of tables.
def put (out : RawTable) (key : Value) (raw : Raw) : RawTable :=
  match key with
  | .text name =>
    if out.any (·.1 == name) then out.map fun (n,r) => if n == name then (n,raw) else (n,r)
    else out ++ [(name,raw)]
  | _ => out

-- A mapping that is being filled: whether its keys are texts, the keys that merged entries may no
-- longer set (none when no merge is under way), and the entries.
structure Filling where
  isTable : Bool
  taken : Option (List Value)
  out : RawTable

mutual

-- The value of a node. `active` holds the aliases that are being followed.
def content (d : Document) : Nat → List Nat → Node → Decoder Raw
  | 0,_,_ => Decoder.refuse
  | fuel + 1,active,node => do
    Decoder.visit (!active.isEmpty)
    match node with
    | .scalar tag plain chars =>
      match ← Decoder.given (Value.ofScalar? tag plain chars) with
      | .text value => return .text value
      | .flag value => return .flag value
      | _ => return .other
    | .sequence nodes => items d fuel active nodes; return .other
    | .mapping entries =>
      let isTable := entries.all fun (key,_) => d.isTextKey key
      let filled ← fill d fuel active ⟨isTable,none,[]⟩ entries
      return if isTable then .table filled.out else .other
    | .alias _ number own =>
      if active.contains own then Decoder.refuse
      else content d fuel (own :: active) (← Decoder.given (d.target? number))

def items (d : Document) : Nat → List Nat → List Node → Decoder Unit
  | 0,_,_ => Decoder.refuse
  | _ + 1,_,[] => return ()
  | fuel + 1,active,node :: rest => do
    let _ ← content d fuel active node
    items d fuel active rest

def fill (d : Document) : Nat → List Nat → Filling → List (Node × Node) → Decoder Filling
  | 0,_,_,_ => Decoder.refuse
  | fuel + 1,active,filling,entries => do
    if Node.hasRepeatedKey entries then Decoder.refuse
    else
      let filling ← addEntries d fuel active filling entries
      match entries.reverse.find? fun (key,_) => key.isMerge with
      | none => return filling
      | some (_,source) =>
        let taken ← match filling.taken with
          | some taken => pure taken
          | none => entries.mapM fun (key,_) => do return (← d.key (!active.isEmpty) key).1
        let merged ← merge d fuel active { filling with taken := some taken } source
        return { merged with taken := filling.taken.bind fun _ => merged.taken }

def addEntries (d : Document) : Nat → List Nat → Filling → List (Node × Node) → Decoder Filling
  | 0,_,_,_ => Decoder.refuse
  | _ + 1,_,filling,[] => return filling
  | fuel + 1,active,filling,(name,node) :: rest => do
    if name.isMerge then addEntries d fuel active filling rest
    else
      let found ← d.key (!active.isEmpty) name
      match if filling.isTable then tableKey? found else some found.1 with
      | none => addEntries d fuel active filling rest
      | some key =>
        if (filling.taken.getD []).any (·.isSame key) then addEntries d fuel active filling rest
        else
          let raw ← content d fuel active node
          let filling : Filling :=
            { filling with taken := filling.taken.map (key :: ·),out := put filling.out key raw }
          addEntries d fuel active filling rest

def merge (d : Document) : Nat → List Nat → Filling → Node → Decoder Filling
  | 0,_,_,_ => Decoder.refuse
  | fuel + 1,active,filling,source =>
    match source with
    | .sequence sources => mergeAll d fuel active filling sources
    | .scalar _ _ _ => Decoder.refuse
    | node => mergeAll d fuel active filling [node]

def mergeAll (d : Document) : Nat → List Nat → Filling → List Node → Decoder Filling
  | 0,_,_,_ => Decoder.refuse
  | _ + 1,_,filling,[] => return filling
  | fuel + 1,active,filling,source :: rest => do
    match source with
    | .mapping entries =>
      Decoder.visit (!active.isEmpty)
      let filling ← fill d fuel active filling entries
      mergeAll d fuel active filling rest
    | .alias _ number own =>
      match d.target? number with
      | some (.mapping entries) =>
        Decoder.visit (!active.isEmpty)
        if active.contains own then Decoder.refuse
        else
          Decoder.visit true
          let filling ← fill d fuel (own :: active) filling entries
          mergeAll d fuel active filling rest
      | _ => Decoder.refuse
    | _ => Decoder.refuse

end

-- The table at the root. Null is an empty table, and other scalars and sequences are none.
def table (d : Document) (fuel : Nat) : Decoder RawTable := do
  Decoder.visit false
  Decoder.visit false
  match d.root with
  | .mapping entries => return (← fill d fuel [] ⟨true,none,[]⟩ entries).out
  | .scalar tag plain content =>
    if (← Decoder.given (Value.ofScalar? tag plain content)) == .null then return []
    else Decoder.refuse
  | _ => Decoder.refuse

end Document

-- The table that a text describes, from its first document. A text without one is an empty table.
def table? (data : Bytes) : Option RawTable :=
  match Document.ofBytes? data with
  | none => none
  | some none => some []
  | some (some document) =>
    -- No alias is followed inside of itself, so depth is bounded.
    let fuel := Document.steps data * (document.aliases + 2)
    (document.table fuel ⟨0,0⟩).map (·.1)

def decode (data : Bytes) : Except Bytes RawTable :=
  match table? data with
  | some table => .ok table
  | none => .error (text "malformed document")

end ScriptLauncher.Yaml
