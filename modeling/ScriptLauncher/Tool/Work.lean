import ScriptLauncher.Process.System

namespace ScriptLauncher.Tool

-- What the programs of the host have in common: they read their arguments in one way, they hold
-- their output back until they end, and they name themselves in front of what they complain about.
-- A program that cannot go on ends with a status.

open Process (System Ending)

structure Bench where
  system : System
  held : List Bytes := []
  status : Nat := 0

-- A program at work. It is interrupted by its end.
abbrev Work := ReaderT Process (EStateM Ending Bench)

def shownByte (b : UInt8) : Bytes :=
  match [(7,'a'),(8,'b'),(12,'f'),(10,'n'),(13,'r'),(9,'t'),(11,'v')].find? (·.1 == b) with
  | some (_,c) => [92,byte c]
  | none => [92,48 + b / 64,48 + b / 8 % 8,48 + b % 8]

def isPlain (b : UInt8) : Bool := 32 ≤ b && b < 127

def quotedInside : Bool → Bytes → Bytes
  | _,[] => []
  | isApart,b :: rest =>
    if !isPlain b then (if isApart then [] else text "'$'") ++ shownByte b ++ quotedInside true rest
    else (if isApart then text "''" else []) ++
      (if b == byte '\'' then text "'\\''" else [b]) ++ quotedInside false rest

def quoted (name : Bytes) : Bytes :=
  let prefersDouble := name.contains (byte '\'') && name.all isPlain &&
    !name.any fun b => (text "\"$\x60\\").contains b
  if prefersDouble then text "\"" ++ name ++ text "\"" else text "'" ++ quotedInside false name ++ text "'"

def cited (word : Bytes) : Bytes :=
  text "'" ++ (word.flatMap fun b =>
    if !isPlain b then shownByte b else if b == byte '\'' || b == 92 then [92,b] else [b]) ++ text "'"

def named (name : Bytes) : Bytes :=
  let isDoubtful (b : UInt8) : Bool := !isPlain b || (text " !\"$&'()*;<=>?[\\^\x60|:").contains b
  let first := name.headD 0
  let isBrace := name == text "\x7b" || name == text "\x7d"
  if name.isEmpty || name.any isDoubtful || first == byte '#' || first == byte '~' || isBrace then quoted name
  else name

namespace Work

def process : Work Process := read

def operands : Work (List Bytes) := return (← process).operands

def put (data : Bytes) : Work Unit := modify fun b => { b with held := data :: b.held }

def putLine (data : Bytes) : Work Unit := put (data ++ [Bytes.newline])

def write (stream : Nat) (data : Bytes) : Work (Except Refusal Unit) := do
  let b ← get
  if data.isEmpty then return .ok ()
  else match (← process).streams.channel? stream with
    | none => return .error .badDescriptor
    | some id =>
      match b.system.write id data with
      | .ok system =>
        set { b with system }
        return .ok ()
      | .error how => return .error how

def fails (status : Nat) : Work Unit := modify fun b => { b with status := max b.status status }

def remark (message : Bytes) : Work Unit := do
  discard (write 2 ((← process).name ++ text ": " ++ message ++ text "\n"))

-- Says what is wrong; the program goes on, but ends badly.
def complain (message : Bytes) (status : Nat := 1) : Work Unit := do
  remark message
  fails status

def stop {α : Type} (message : Bytes) (status : Nat := 1) : Work α := do
  remark message
  throw (.status status)

def misused {α : Type} (message : Bytes) (status : Nat := 1) : Work α := do
  remark message
  discard (write 2 (text "Try '" ++ (← process).name ++ text " --help' for more information.\n"))
  throw (.status status)

def refused (path : Bytes) (how : Refusal) (status : Nat := 1) : Work Unit :=
  complain (named path ++ text ": " ++ how.sentence) status

def input : Work (Except Refusal Bytes) := do
  let b ← get
  match (← process).streams.channel? 0 with
  | none => return .error .badDescriptor
  | some id =>
    match b.system.read id 0xFFFFFFFF with
    | .ok (data,system) =>
      set { b with system }
      return .ok data
    | .error how => return .error how

def inputSize? : Work (Option Nat) := do
  let s := (← get).system
  match ((← process).streams.channel? 0).map s.channel with
  | some (.file id _ _ _ _) => return (s.files.withId? id).map (·.data.length)
  | _ => return none

def unread (count : Nat) : Work Unit := do
  if let some id := (← process).streams.channel? 0 then
    modify fun b => { b with system := b.system.unread id count }

-- What can be read at a path; a dash means the standard input.
def content (path : Bytes) : Work (Except Refusal Bytes) := do
  if path == text "-" then input
  else
    let b ← get
    match b.system.open_ (← process) path { reads := true } with
    | .error how => return .error how
    | .ok (id,system) =>
      match system.read id 0xFFFFFFFF with
      | .ok (data,system) =>
        set { b with system }
        return .ok data
      | .error how => return .error how

def flush : Work (Except Refusal Unit) := do
  let data := (← get).held.reverse.flatten
  modify fun b => { b with held := [] }
  write 1 data

def files : Work FileSystem := return (← get).system.files

def setFiles (files : FileSystem) : Work Unit :=
  modify fun b => { b with system := { b.system with files } }

def resolve (path : Bytes) : Work (Except Refusal (Location × Option Node)) := do
  return (← files).resolve (← process).cwd path

def toEnd (work : Work Unit) (p : Process) (system : System) : Ending × System :=
  let finish : Work Unit := do
    match ← flush with
    | .ok _ => return
    | .error how => complain (text "write error: " ++ how.sentence)
  match (work *> finish) p { system } with
  | .ok _ b => (.status b.status,b.system)
  | .error ending b =>
    match finish p b with
    | .ok _ b => (ending,b.system)
    | .error _ b => (ending,b.system)

end Work

structure Spec where
  plain : String
  valued : String := ""
  long : List (String × Char) := []
  endsEarly : Bool := false
  status : Nat := 1
  usage : List String := []

abbrev Options := List (UInt8 × Bytes)

namespace Options

def has (o : Options) (letter : Char) : Bool := o.any (·.1 == byte letter)

def value? (o : Options) (letter : Char) : Option Bytes := (o.reverse.find? (·.1 == byte letter)).map (·.2)

end Options

namespace Spec

def usageOnly {α : Type} (spec : Spec) : Work α := do
  discard (Work.write 2 (spec.usage.flatMap fun line => text line ++ [Bytes.newline]))
  discard (Work.write 2 (text "Try '" ++ (← Work.process).name ++ text " --help' for more information.\n"))
  throw (.status spec.status)

def misused {α : Type} (spec : Spec) (message : Bytes) : Work α := do
  Work.remark message
  spec.usageOnly

-- The options in one word of letters. The last can take its value from the next word.
def letters (spec : Spec) : Bytes → List Bytes → Work (Options × List Bytes)
  | [],others => return ([],others)
  | b :: rest,others => do
    if (text spec.plain).contains b then
      let (found,others) ← letters spec rest others
      return ((b,[]) :: found,others)
    else if (text spec.valued).contains b then
      if !rest.isEmpty then return ([(b,rest)],others)
      else match others with
        | value :: others => return ([(b,value)],others)
        | [] => spec.misused (text "option requires an argument -- '" ++ [b] ++ text "'")
    else spec.misused (text "invalid option -- '" ++ [b] ++ text "'")

def longOption (spec : Spec) (word : Bytes) (others : List Bytes) : Work (Options × List Bytes) := do
  let (name,value) := match Bytes.cut (byte '=') word with
    | some (name,value) => (name,some value)
    | none => (word,none)
  let exact := spec.long.filter fun (long,_) => text long == name
  let fitting := if exact.isEmpty then spec.long.filter fun (long,_) => name.isPrefixOf (text long) else exact
  match fitting with
  | [(long,letter)] =>
    let takesValue := spec.valued.toList.contains letter
    match takesValue,value,others with
    | true,some value,_ => return ([(byte letter,value)],others)
    | true,none,value :: others => return ([(byte letter,value)],others)
    | true,none,[] =>
      spec.misused (text "option '--" ++ text long ++ text "' requires an argument")
    | false,none,_ => return ([(byte letter,[])],others)
    | false,some _,_ =>
      spec.misused (text "option '--" ++ text long ++ text "' doesn't allow an argument")
  | [] => spec.misused (text "unrecognized option '--" ++ word ++ text "'")
  | several =>
    let names := several.flatMap fun (long,_) => text " '--" ++ text long ++ text "'"
    spec.misused (text "option '--" ++ word ++ text "' is ambiguous; possibilities:" ++ names)

def split (spec : Spec) : Nat → List Bytes → Work (Options × List Bytes)
  | 0,words => return ([],words)
  | _ + 1,[] => return ([],[])
  | n + 1,word :: rest => do
    match word with
    | [45,45] => return ([],rest)
    | 45 :: 45 :: long =>
      let (found,rest) ← spec.longOption long rest
      let (others,operands) ← split spec n rest
      return (found ++ others,operands)
    | 45 :: b :: short =>
      let (found,rest) ← spec.letters (b :: short) rest
      let (others,operands) ← split spec n rest
      return (found ++ others,operands)
    | _ =>
      if spec.endsEarly then return ([],word :: rest)
      else
        let (others,operands) ← split spec n rest
        return (others,word :: operands)

def parse (spec : Spec) (words : List Bytes) : Work (Options × List Bytes) := spec.split (words.length + 1) words

end Spec

def lines (data : Bytes) : List Bytes × Bool :=
  match (Bytes.splitOn Bytes.newline data).reverse with
  | [] => ([],true)
  | [] :: rest => (rest.reverse,true)
  | last :: rest => ((last :: rest).reverse,false)

def decimal? (word : Bytes) : Option Nat :=
  if !word.isEmpty && word.all fun b => 48 ≤ b && b ≤ 57 then
    some (word.foldl (fun n b => n * 10 + (b.toNat - 48)) 0)
  else none

end ScriptLauncher.Tool
