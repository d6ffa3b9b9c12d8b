import ScriptLauncher.Process.Signal
import ScriptLauncher.Process.Image
import ScriptLauncher.Shell.Grammar

namespace ScriptLauncher.Shell

-- The state of a shell, and the small steps on it: variables and their scopes, messages, output. A
-- step can be interrupted, by the end of the shell or by a mistake in the script.

open Process (System Streams Ending)

structure Variable where
  value : Option Bytes := none
  isExported : Bool := false
  isReadOnly : Bool := false

inductive Skip where
  | nothing
  | toLoopEnd
  | toNextRound
  -- To the end of the function; with a status of its own or the one before.
  | toFunctionEnd (isExplicit : Bool)
  deriving DecidableEq

-- A statement that is not waited for. It is carried out when something depends on it, as if it had
-- begun at its moment, and has an ending then.
structure Job where
  number : Nat
  process : Nat
  start : Nat
  work : System → Ending × System
  ending : Option (Ending × Nat) := none
  isAnnounced : Bool := false
  isWaited : Bool := false

structure Session where
  process : Process
  root : Nat
  name : Bytes
  arguments : List Bytes := []
  directory : Bytes := []
  vars : List (Bytes × Variable) := []
  scopes : List (List (Bytes × Option Variable)) := []
  functions : List (Bytes × Nat × Statement) := []
  shorthands : List (Bytes × Bytes) := []
  traps : List (Nat × Bytes) := []
  arrived : List Nat := []
  options : List UInt8 := []
  status : Nat := 0
  innerStatus : Nat := 0
  savedStatus : Option Nat := none
  line : Nat := 0
  inputLine : Nat := 0
  commandName : Option Bytes := none
  skip : Skip := .nothing
  skipCount : Nat := 0
  loops : Nat := 0
  functionDepth : Nat := 0
  jobs : List Job := []
  lastJob : Option Nat := none
  documents : List Word := []
  buffer : Bytes := []
  -- The argument whose options come next, and the place inside the one before.
  optionIndex : Nat := 1
  optionOffset : Option Nat := none
  found : List (Bytes × Bytes) := []

structure World where
  system : System
  shell : Session

inductive Interrupt where
  | exit
  | error
  | killed (signal : Nat)
  | replaced (ending : Ending)

abbrev Act := EStateM Interrupt World

namespace Session

def option (sh : Session) (letter : Char) : Bool := sh.options.contains (byte letter)

def var? (sh : Session) (name : Bytes) : Option Variable := sh.vars.lookup name

def value? (sh : Session) (name : Bytes) : Option Bytes := (sh.var? name).bind (·.value)

def value (sh : Session) (name : Bytes) : Bytes := (sh.value? name).getD []

def put (sh : Session) (name : Bytes) (v : Variable) : Session :=
  { sh with
    vars :=
      if sh.vars.any (·.1 == name) then
        sh.vars.map fun (other,old) => if other == name then (other,v) else (other,old)
      else sh.vars ++ [(name,v)] }

def drop (sh : Session) (name : Bytes) : Session := { sh with vars := sh.vars.filter (·.1 != name) }

def row (name : Bytes) : Nat :=
  (name.foldl (fun n b => n + b.toNat) (16 * (name.headD 0).toNat)) % 39

-- The environment of a child: row by row, and in a row the older variable first.
def environment (sh : Session) : List Bytes :=
  let exported := sh.vars.filterMap fun (name,v) =>
    if v.isExported then v.value.map fun value => (row name,name ++ byte '=' :: value) else none
  (exported.mergeSort fun a b => decide (a.1 ≤ b.1)).map (·.2)

def separators (sh : Session) : Bytes := (sh.value? (text "IFS")).getD (text " \t\n")

def hasTraps (sh : Session) : Bool := sh.traps.any fun (_,action) => !action.isEmpty

end Session

namespace Act

def shell : Act Session := return (← get).shell

def system : Act System := return (← get).system

def modifyShell (change : Session → Session) : Act Unit :=
  modify fun w => { w with shell := change w.shell }

def setSystem (s : System) : Act Unit := modify fun w => { w with system := s }

-- Writes to a stream; the answer tells whether it could be done.
def write (stream : Nat) (data : Bytes) : Act Bool := do
  if data.isEmpty then return true
  let w ← get
  match w.shell.process.streams.channel? stream with
  | none => return false
  | some id =>
    match w.system.write id data with
    | .ok system =>
      set { w with system }
      return true
    | .error _ => return false

def flush : Act Bool := do
  let pending := (← shell).buffer
  modifyShell fun sh => { sh with buffer := [] }
  write 1 pending

def out (data : Bytes) : Act Unit := modifyShell fun sh => { sh with buffer := sh.buffer ++ data }

def warn (message : Bytes) : Act Unit := do
  let sh ← shell
  let command := match sh.commandName with
    | some name => name ++ text ": "
    | none => []
  discard (write 2 (sh.name ++ text ": " ++ Bytes.ofNat sh.line ++ text ": " ++ command ++ message ++ text "\n"))

def setStatus (status : Nat) : Act Unit := modifyShell fun sh => { sh with status }

def fail {α : Type} (message : Bytes) : Act α := do
  warn message
  setStatus 2
  throw .error

def badNumber {α : Type} (word : Bytes) : Act α := fail (text "Illegal number: " ++ word)

def number (word : Bytes) : Act Nat := do
  let digits := word.takeWhile isDigit
  let n := digits.foldl (fun n b => n * 10 + (b.toNat - 48)) 0
  if digits.isEmpty || digits.length != word.length || 0x7FFFFFFF < n then badNumber word
  else return n

def noteChange (name value : Bytes) : Act Unit := do
  if name == text "OPTIND" then
    let n ← number value
    modifyShell fun sh => { sh with optionIndex := max 1 n,optionOffset := none }
  else if name == text "PATH" then modifyShell fun sh => { sh with found := [] }

def assignWith (name : Bytes) (value : Option Bytes) (change : Variable → Variable) : Act Unit := do
  if !isName name then fail (name ++ text ": bad variable name")
  let sh ← shell
  let old := (sh.var? name).getD {}
  if old.isReadOnly then fail (name ++ text ": is read only")
  if let some v := value then noteChange name v
  let new := change { old with value := value.orElse fun _ => old.value }
  modifyShell fun sh => sh.put name { new with isExported := new.isExported || sh.option 'a' }

def assign (name value : Bytes) : Act Unit := assignWith name (some value) id

def assignText (entry : Bytes) (change : Variable → Variable) : Act Unit :=
  let (name,value) := ScriptLauncher.assignment entry
  assignWith name (some value) change

def unset (name : Bytes) : Act Unit := do
  if !isName name then fail (name ++ text ": bad variable name")
  if (((← shell).var? name).map (·.isReadOnly)).getD false then fail (name ++ text ": is read only")
  modifyShell (·.drop name)

def optionsName : Bytes := text "-"

def pushScope : Act Unit := modifyShell fun sh => { sh with scopes := [] :: sh.scopes }

def popScope : Act Unit := modifyShell fun sh =>
  match sh.scopes with
  | [] => sh
  | scope :: outer =>
    let restored := scope.foldl (fun (sh : Session) (name,old) =>
      match old with
      | some v => if name == optionsName then { sh with options := v.value.getD [] } else sh.put name v
      | none => sh.drop name) sh
    { restored with scopes := outer }

def localize (name : Bytes) : Act Unit := modifyShell fun sh =>
  match sh.scopes with
  | [] => sh
  | scope :: outer =>
    let old := if name == optionsName then some { value := some sh.options } else sh.var? name
    { sh with scopes := ((name,old) :: scope) :: outer }

def unwindScopes : Nat → Nat → Act Unit
  | 0,_ => return
  | n + 1,count => do
    if count < (← shell).scopes.length then
      popScope
      unwindScopes n count

def finally_ {α : Type} (act : Act α) (after : Act Unit) : Act α := fun w =>
  match act w with
  | .ok a w => match after w with
    | .ok _ w => .ok a w
    | .error e w => .error e w
  | .error e w => match after w with
    | .ok _ w => .error e w
    | .error e w => .error e w

def attempt {α : Type} (act : Act α) : Act (Except Interrupt α) := fun w =>
  match act w with
  | .ok a w => .ok (.ok a) w
  | .error e w => .ok (.error e) w

end Act

-- A text in single quotation marks; those that are in it stand in double ones.
def quoted : Nat → Bytes → Bytes
  | 0,_ => []
  | n + 1,s =>
    let isMark (b : UInt8) : Bool := b == byte '\''
    let plain := s.takeWhile fun b => !isMark b
    let rest := s.drop plain.length
    let marks := rest.takeWhile isMark
    let after := rest.drop marks.length
    let first := text "'" ++ plain ++ text "'"
    if marks.isEmpty then first
    else
      let both := first ++ text "\"" ++ marks ++ text "\""
      if after.isEmpty then both else both ++ quoted n after

def quote (s : Bytes) : Bytes := quoted (s.length + 1) s

end ScriptLauncher.Shell
