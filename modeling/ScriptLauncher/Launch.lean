import ScriptLauncher.Settings.Basic
import ScriptLauncher.Environment
import ScriptLauncher.Log

namespace ScriptLauncher

-- One launch: from arguments and settings to a command, and from the child's end to an exit code.
-- The launcher reaches the outside only through its `Surroundings`; what it does is recorded as a
-- list of events in order. `plan` decides what to run without running anything, so a dry run and a
-- real run decide alike.

-- A program with its arguments and directory. Without `env` it inherits the environment.
structure Command where
  program : Bytes
  args : List Bytes
  dir : Bytes
  env : Option (List Bytes) := none
  deriving DecidableEq

namespace Command

def shellArgs (script : Bytes) : List Bytes := [text "-c",script]

def ofLine (shell script dir : Bytes) : Command :=
  ⟨if shell.isEmpty then text "sh" else shell,shellArgs script,dir,none⟩

-- The words of an argument vector; the first is the program.
def ofWords : List Bytes → Bytes → Command
  | [],dir => ⟨[],[],dir,none⟩
  | program :: args,dir => ⟨program,args,dir,none⟩

end Command

structure LineRules where
  split : Bytes → Except Fault (List Bytes)
  join : List Bytes → Bytes

-- The rules of `Words`, with the line named in the fault.
def LineRules.standard : LineRules where
  split line := (Words.split line).mapError fun open_ =>
    .context (text "split " ++ Quoted.quote line ++ text ": ") (.of (.unterminated open_))
  join := Words.join

def singleArgument : List Bytes → Except Fault Bytes
  | [filename] => .ok filename
  | args => .error (.within [] (.of .usage)
      (text ": expected 1 argument, got " ++ Bytes.ofNat args.length))

-- A path in double quotes, for a command interpreter that knows no other quoting.
def doubleQuoted (path : Bytes) : Bytes := text "\"" ++ path ++ text "\""

namespace Launch

structure Request where
  args : List Bytes
  dryRun : Bool := false
  noShell : Bool := false
  propagateExitCode : Bool := false

structure Invocation where
  runId : Bytes
  -- The argument, untouched.
  filename : Bytes
  -- The line for the shell, or the words quoted for display.
  commandLine : Bytes
  dir : Bytes
  mode : Mode
  -- Program and arguments; none when a shell reads the line.
  argv : Option (List Bytes)
  deriving DecidableEq

structure Report where
  invocation : Invocation
  childExitCode : Int := 0
  exitCode : Int := 0
  dispatched : Bool := false

inductive Event where
  | output (line : Bytes)
  | warning (line : Bytes)
  | logged (entry : Log.Entry)
  | lookedUp (dir : Bytes)
  | readVariables (path : Bytes)
  | dispatched (command : Command)

-- The outside of a launch, over a state that logging and running may change.
structure Surroundings (σ : Type) where
  settings : σ → Except Fault Settings
  isFile : σ → Bytes → Bool
  worktree : σ → Bytes → Except Fault Bytes
  vars : σ → Bytes → Except Fault Variables
  record : Log.Entry → σ → σ
  run : Command → σ → Option Fault × σ
  rules : LineRules
  environ : List Bytes
  workDir : Bytes
  runId : Bytes
  -- Whether the system's own shell is the one that only knows double quotes.
  plainShell : Bool := false

-- A launch under way: the outside as it is now, and what happened so far.
structure Progress (σ : Type) where
  state : σ
  events : List Event

namespace Progress

variable {σ : Type}

def note (p : Progress σ) (event : Event) : Progress σ := { p with events := p.events ++ [event] }

def log (p : Progress σ) (around : Surroundings σ) (entry : Log.Entry) : Progress σ :=
  { state := around.record entry p.state,events := p.events ++ [.logged entry] }

end Progress

def category : Bytes := text "launch"

-- The entry script to run, and whether it was found at the worktree's root instead of being taken
-- as it is.
structure Script where
  path : Bytes
  resolved : Bool

-- Looks for a relative entry script that is missing from the working directory at the root of the
-- worktree around it. A worktree that cannot be determined leaves the script as it is.
def resolveScript {σ : Type} (around : Surroundings σ) (script : Bytes) (p : Progress σ) :
    Script × Progress σ :=
  if Path.isAbsolute script || around.isFile p.state (Path.join [around.workDir,script]) then
    (⟨script,false⟩,p)
  else
    let asked := p.note (.lookedUp around.workDir)
    match around.worktree p.state around.workDir with
    | .error fault =>
      if fault.isNotARepository then (⟨script,false⟩,asked)
      else (⟨script,false⟩,
        asked.log around ⟨.debug,[],category,text "repository lookup failed: " ++ fault.message⟩)
    | .ok root =>
      let candidate := Path.join [root,script]
      if around.isFile asked.state candidate then
        (⟨candidate,true⟩,
          asked.log around ⟨.debug,[],category,text "entry script resolved to " ++ candidate⟩)
      else (⟨script,false⟩,asked)

-- The script of a launch, which is looked for only where the settings ask for it.
def locateScript {σ : Type} (around : Surroundings σ) (launcher : LauncherSettings)
    (p : Progress σ) : Script × Progress σ :=
  if launcher.resolveEntryScript then resolveScript around launcher.entryScript p
  else (⟨launcher.entryScript,false⟩,p)

def quoteScript (rules : LineRules) (plainShell : Bool) (shell path : Bytes) : Bytes :=
  if plainShell && shell.isEmpty then doubleQuoted path else rules.join [path]

-- The line that a shell is to read. The file name is never quoted, the script only if found.
def shellLine (rules : LineRules) (plainShell : Bool) (launcher : LauncherSettings)
    (script : Script) (filename : Bytes) : Bytes :=
  let word :=
    if script.resolved then quoteScript rules plainShell launcher.shell script.path else script.path
  LauncherSettings.lead { launcher with entryScript := word } ++ filename

def execWords (rules : LineRules) (launcher : LauncherSettings) (script : Script)
    (filename : Bytes) : Except Fault (List Bytes) :=
  match rules.split launcher.interpreter with
  | .error fault => .error (.context (text "parse interpreter: ") fault)
  | .ok [] => .error (.of .emptyCommand)
  | .ok words => .ok (words ++ [script.path,filename])

def plan {σ : Type} (around : Surroundings σ) (launcher : LauncherSettings) (mode : Mode)
    (script : Script) (filename : Bytes) : Except Fault Invocation :=
  match mode with
  | .shell =>
    .ok ⟨around.runId,filename,shellLine around.rules around.plainShell launcher script filename,
      around.workDir,.shell,none⟩
  | .exec =>
    (execWords around.rules launcher script filename).map fun words =>
      ⟨around.runId,filename,around.rules.join words,around.workDir,.exec,some words⟩

def command (launcher : LauncherSettings) (inv : Invocation) : Command :=
  match inv.argv with
  | some words => .ofWords words inv.dir
  | none => .ofLine launcher.shell inv.commandLine inv.dir

def envPath (workDir envFile : Bytes) : Bytes :=
  if Path.isAbsolute envFile then envFile else Path.join [workDir,envFile]

-- The command together with its environment, which is set only if a file of variables is named.
def withVariables {σ : Type} (around : Surroundings σ) (launcher : LauncherSettings) (cmd : Command)
    (p : Progress σ) : Except Fault Command × Progress σ :=
  if launcher.envFile.isEmpty then (.ok cmd,p)
  else
    let path := envPath around.workDir launcher.envFile
    ((around.vars p.state path).map fun vars =>
        { cmd with env := some (Environment.merge around.environ vars) },
      p.note (.readVariables path))

def dispatchEntry (inv : Invocation) : Log.Entry :=
  ⟨.info,inv.runId,category,
    text "dispatch " ++ inv.mode.name ++ text ": " ++ Quoted.quote inv.commandLine ++
      text " (dir=" ++ inv.dir ++ text ")"⟩

def dryRunEntry (inv : Invocation) : Log.Entry :=
  ⟨.debug,inv.runId,category,text "dry run: " ++ inv.commandLine⟩

def outcomeEntry (inv : Invocation) (result : Option Fault) : Log.Entry :=
  match result with
  | none => ⟨.info,inv.runId,category,text "child exited with status 0"⟩
  | some fault =>
    if exitCodeOf result == notStarted then
      ⟨.error,inv.runId,category,text "child could not be started: " ++ fault.message⟩
    else
      ⟨.warn,inv.runId,category,
        text "child exited with status " ++ Bytes.ofInt (exitCodeOf result)⟩

def dispatch {σ : Type} (around : Surroundings σ) (launcher : LauncherSettings) (inv : Invocation)
    (cmd : Command) (p : Progress σ) : Report × Progress σ :=
  let announced := p.log around (dispatchEntry inv)
  let (result,after) := around.run cmd announced.state
  let ran : Progress σ := { state := after,events := announced.events ++ [.dispatched cmd] }
  let code := exitCodeOf result
  ({ invocation := inv
     childExitCode := code
     exitCode := if launcher.propagateExitCode then code else 0
     dispatched := true },
    ran.log around (outcomeEntry inv result))

def effective (settings : Settings) (request : Request) : LauncherSettings :=
  { settings.launcher with
    mode := if request.noShell then Mode.exec.name else settings.launcher.mode
    propagateExitCode := settings.launcher.propagateExitCode || request.propagateExitCode }

def warningLine (warning : Bytes) : Bytes := text "Warning: " ++ warning ++ text "\n"

def warned {σ : Type} (state : σ) (settings : Settings) : Progress σ :=
  ⟨state,settings.warnings.map fun warning => .warning (warningLine warning)⟩

def carryOut {σ : Type} (around : Surroundings σ) (request : Request) (launcher : LauncherSettings)
    (mode : Mode) (script : Script) (filename : Bytes) (p : Progress σ) :
    Except Fault Report × Progress σ :=
  match plan around launcher mode script filename with
  | .error fault => (.error fault,p)
  | .ok inv =>
    if request.dryRun then
      (.ok { invocation := inv },
        (p.log around (dryRunEntry inv)).note (.output (inv.commandLine ++ text "\n")))
    else
      match withVariables around launcher (command launcher inv) p with
      | (.error fault,q) => (.error fault,q)
      | (.ok cmd,q) =>
        let (report,r) := dispatch around launcher inv cmd q
        (.ok report,r)

def execute {σ : Type} (around : Surroundings σ) (request : Request) (state : σ) :
    Except Fault Report × Progress σ :=
  match singleArgument request.args with
  | .error fault => (.error fault,⟨state,[]⟩)
  | .ok filename =>
    match around.settings state with
    | .error fault => (.error (.context (text "load config: ") fault),⟨state,[]⟩)
    | .ok settings =>
      let launcher := effective settings request
      match launcher.check with
      | .error fault => (.error fault,warned state settings)
      | .ok mode =>
        let (script,p) := locateScript around launcher (warned state settings)
        carryOut around request launcher mode script filename p

end Launch

end ScriptLauncher
