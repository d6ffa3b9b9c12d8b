import ScriptLauncher.Program
import ScriptLauncher.Shell.Evaluator

namespace ScriptLauncher.Child

-- Children of the launcher: how a command becomes a process on the host, and why it may not. The
-- program is searched for in the launcher's own search path; a path with a slash in it is taken as
-- it is, from the directory of the command.

open Process (System Ending)

def equip (host : Host) : Host := Process.Image.equip host

def depth : Nat := 100000

-- The name of an entry of an environment. A name can begin with an equals sign; an entry without
-- any has no name.
def nameOf? (entry : Bytes) : Option Bytes :=
  match entry with
  | 61 :: rest => some (((Bytes.cut (byte '=') rest).map fun (name,_) => byte '=' :: name).getD [])
  | _ => (Bytes.cut (byte '=') entry).map (·.1)

-- Entries with the last of each name. Those without a name all stay, but for empty ones.
def lastOfEach : List Bytes → List Bytes
  | [] => []
  | entry :: rest =>
    let isKept := match nameOf? entry with
      | some name => !rest.any fun later => nameOf? later == some name
      | none => !entry.isEmpty
    if isKept then entry :: lastOfEach rest else lastOfEach rest

def zeroByte : Fault := .of (.other (text "exec: environment variable contains NUL"))

-- The environment of a child. A child that inherits its environment is told its directory.
def environment (cmd : Command) (host : Host) : Except Fault (List Bytes) := do
  let entries ← match cmd.env with
    | some entries => pure entries
    | none =>
      let inherited := host.vars.assignments
      if cmd.dir.isEmpty then pure inherited
      else pure (inherited ++ [text "PWD=" ++ (← host.absolute cmd.dir)])
  if entries.any (·.contains 0) then throw zeroByte else return lastOfEach entries

def searchFault (program note : Bytes) : Fault :=
  .context (text "exec: " ++ Quoted.quote program ++ text ": ") (.of (.other note))

def notFound (program : Bytes) : Fault := searchFault program (text "executable file not found in $PATH")

-- The first place of the search path that holds a program. A place that depends on the working
-- directory is found, but not taken.
def search (program : Bytes) (host : Host) : Except Fault Bytes :=
  let isProgram (path : Bytes) : Bool := match host.stat path with
    | .ok (.file f) => f.mode &&& 0o111 != 0
    | _ => false
  let searchPath := host.getenv (text "PATH")
  let dirs := if searchPath.isEmpty then [] else Bytes.splitOn (byte ':') searchPath
  let places := dirs.map fun dir => Path.join [if dir.isEmpty then Path.dot else dir,program]
  match places.find? isProgram with
  | none => .error (notFound program)
  | some path =>
    if Path.isAbsolute path then .ok path
    else .error (searchFault program (text "cannot run executable found relative to current directory"))

-- The path of the program. The root directory is the one path that is also a name.
def programPath (program : Bytes) (host : Host) : Except Fault Bytes :=
  if program.isEmpty then .error (.of (.other (text "exec: no command")))
  else if program == [Bytes.slash] then .error (searchFault program (text "is a directory"))
  else if program.contains Bytes.slash then .ok program
  else if program == Path.dot || program == Path.dotDot then .error (notFound program)
  else search program host

-- Where a child works. The directory has to be there; that it is none is noticed only later.
def directory (dir : Bytes) (host : Host) : Except Fault (Except Refusal (Option Location)) :=
  if dir.isEmpty then .ok (.ok host.cwd)
  else match host.files.resolve host.cwd dir with
    | .ok (place,some .directory) => .ok (.ok (some place))
    | .ok (_,some (.file _)) => .ok (.error .notDirectory)
    | .ok (_,none) => .error (Host.refused (text "chdir") dir .noEntry)
    | .error how => .error (Host.refused (text "chdir") dir how)

def faultOf : Ending → Option Fault
  | .status 0 => none
  | .status code => some (.of (.childStatus code))
  | .signal number => some (.of (.childSignal (Process.Signal.description number)))

-- What becomes of a process: its end, the system behind it, and its output.
structure Outcome where
  ending : Ending
  system : System

def mask : Nat := 0o022

def number : Nat := 4242

def begin_ (input : Bytes) (cmd : Command) (path : Bytes) (environment : List Bytes)
    (cwd : Except Refusal (Option Location)) (host : Host) : Except Refusal Outcome := do
  if path.contains 0 || cmd.args.any (·.contains 0) then throw .invalidArgument
  let cwd ← cwd
  if !Process.Image.fits path (cmd.program :: cmd.args) environment then throw .tooManyArguments
  let loaded ← Process.Image.load host.files cwd Process.Image.maxDepth path (cmd.program :: cmd.args)
  let system : System :=
    { files := host.files
      channels := [(0,.outlet 3),(1,.output),(2,.errors),(3,.pipe [(0,input)])]
      freshChannel := 4 }
  let p : Process :=
    { number,arguments := loaded.arguments,environment,cwd,streams := [(0,0),(1,1),(2,2)],mask }
  let (ending,system) := (Shell.Kernel.ofBound depth).execute p loaded.program system
  return ⟨ending,system⟩

def outcome (input : Bytes) (cmd : Command) (isCanceled : Bool) (host : Host) : Except Fault Outcome := do
  let path ← programPath cmd.program host
  if isCanceled then throw (.of (.other (text "context canceled")))
  let environment ← environment cmd host
  let cwd ← directory cmd.dir host
  (begin_ input cmd path environment cwd host).mapError (Host.refused (text "fork/exec") path)

def execution (host : Host) : Except Fault Outcome → Execution
  | .error fault => { result := some fault,host }
  | .ok o =>
    { result := faultOf o.ending
      host := { host with files := o.system.files }
      output := o.system.output.bytes
      errors := o.system.errors.bytes }

def execute (input : Bytes) (cmd : Command) (host : Host) : Execution :=
  execution host (outcome input cmd false host)

-- A command that was called off before its start. A program that is not there is noticed first.
def executeCanceled (cmd : Command) (host : Host) : Execution :=
  execution host (outcome [] cmd true host)

end ScriptLauncher.Child
