import ScriptLauncher.Options
import ScriptLauncher.Launch
import ScriptLauncher.Worktree
import ScriptLauncher.Dotenv

namespace ScriptLauncher

-- The whole program: arguments in, exit code and streams out, on a host whose files it may change.
-- Every run ends in one of four ways: a usage line, a fault, a dry run, or one command carried out.

structure Execution where
  result : Option Fault
  host : Host
  output : Bytes := []
  errors : Bytes := []

structure Setup where
  decoders : Decoders
  execute : Command → Host → Execution
  clock : Log.Moment
  runId : Bytes
  version : Bytes := text "dev"
  colored : Bool := false

structure Machine where
  host : Host
  logger : Log.Logger
  childOutput : Bytes := []
  childErrors : Bytes := []

namespace Machine

def record (clock : Log.Moment) (entry : Log.Entry) (m : Machine) : Machine :=
  let (logger,host) := m.logger.record clock entry m.host
  { m with logger,host }

def run (execute : Command → Host → Execution) (cmd : Command) (m : Machine) :
    Option Fault × Machine :=
  let done := execute cmd m.host
  (done.result,
    { m with
      host := done.host
      childOutput := m.childOutput ++ done.output
      childErrors := m.childErrors ++ done.errors })

end Machine

namespace Program

structure Ending where
  code : Int
  output : Bytes
  errors : Bytes

def usageLine (program : Bytes) : Bytes :=
  text "Usage: " ++ program ++ text " <orion-filename>"

-- Red and bold around the word, and back to normal.
def errorLabel (colored : Bool) : Bytes :=
  if colored then text "\x1b[31;1merror:\x1b[0;22m" else text "error:"

-- How a run ends: misuse shows the usage line, an exit request only sets the code, and any other
-- fault is printed.
def ending (result : Option Fault) (program : Bytes) (colored : Bool) : Ending :=
  match result with
  | none => ⟨0,[],[]⟩
  | some fault =>
    if fault.isUsage then ⟨1,usageLine program ++ text "\n",[]⟩
    else match fault.exitRequest? with
      | some code => ⟨code,[],[]⟩
      | none => ⟨1,[],errorLabel colored ++ text " " ++ fault.message ++ text "\n"⟩

-- Stands before the operands so that none of them is taken for anything else.
def marker : Bytes := text "--"

def operands : List Bytes → List Bytes
  | [] => []
  | first :: rest => if first == marker then rest else first :: rest

structure Outcome where
  ending : Ending
  commands : List Command
  host : Host
  childOutput : Bytes := []
  childErrors : Bytes := []

def outputs (events : List Launch.Event) : Bytes :=
  events.flatMap fun
    | .output line => line
    | _ => []

def warnings (events : List Launch.Event) : Bytes :=
  events.flatMap fun
    | .warning line => line
    | _ => []

def commands (events : List Launch.Event) : List Command :=
  events.filterMap fun
    | .dispatched cmd => some cmd
    | _ => none

-- The level of the log: the one from the options, else the one from the settings as far as they can
-- be loaded, else `info`.
def logLevel (options : Options) (settings : Except Fault Settings) : Log.Level :=
  if !options.logLevel.isEmpty then .ofName options.logLevel
  else match settings with
    | .ok found => .ofName found.level
    | .error _ => .info

def surroundings (setup : Setup) (sources : Sources) (workDir : Bytes) (environ : List Bytes) :
    Launch.Surroundings Machine where
  settings m := Settings.load setup.decoders sources m.host
  isFile m path := m.host.isFile path
  worktree m dir := Worktree.root m.host dir
  vars m path := Dotenv.load m.host path
  record entry m := m.record setup.clock entry
  run cmd m := m.run setup.execute cmd
  rules := .standard
  environ := environ
  workDir := workDir
  runId := setup.runId

def sources (options : Options) (workDir : Bytes) (host : Host) : Sources :=
  ⟨workDir,options.configPath,Settings.defaultGlobalDir host⟩

def logger (setup : Setup) (options : Options) (workDir : Bytes) (host : Host) : Log.Logger where
  stateDir := Log.defaultStateDir host
  level := logLevel options (Settings.load setup.decoders (sources options workDir host) host)

def versionEntry (setup : Setup) : Log.Entry :=
  ⟨.debug,[],text "cli",text "orion " ++ setup.version⟩

-- The machine on which a launch begins: the log has had its first entry.
def started (setup : Setup) (options : Options) (workDir : Bytes) (host : Host) : Machine :=
  { host,logger := logger setup options workDir host : Machine }.record setup.clock
    (versionEntry setup)

def request (options : Options) (args : List Bytes) : Launch.Request where
  args := args
  dryRun := options.dryRun
  noShell := options.noShell
  propagateExitCode := options.propagateExitCode

def around (setup : Setup) (options : Options) (workDir : Bytes) (host : Host) :
    Launch.Surroundings Machine :=
  surroundings setup (sources options workDir host) workDir host.vars.assignments

def launch (setup : Setup) (options : Options) (args : List Bytes) (workDir : Bytes)
    (host : Host) : Option Fault × Launch.Progress Machine :=
  match Launch.execute (around setup options workDir host) (request options args)
      (started setup options workDir host) with
  | (.error fault,progress) => (some fault,progress)
  | (.ok report,progress) =>
    (if report.exitCode == 0 then none else some (.of (.exitRequest report.exitCode)),progress)

-- The checks before a launch, in their order; what they give is what a launch needs.
def prepare (args : List Bytes) (host : Host) : Except Fault (Options × Bytes) :=
  match singleArgument args with
  | .error fault => .error fault
  | .ok _ =>
    match Options.ofEnvironment host.vars.get? with
    | .error fault => .error fault
    | .ok options =>
      match host.workingDirectory with
      | .error fault => .error (.context (text "get current directory: ") fault)
      | .ok workDir =>
        match Log.Level.check options.logLevel with
        | .error fault => .error fault
        | .ok _ => .ok (options,workDir)

def idle (host : Host) : Launch.Progress Machine :=
  ⟨{ host,logger := { stateDir := [],level := .info } },[]⟩

-- A run on the operands: the checks, then the launch.
def perform (setup : Setup) (args : List Bytes) (host : Host) :
    Option Fault × Launch.Progress Machine :=
  match prepare (operands args) host with
  | .error fault => (some fault,idle host)
  | .ok (options,workDir) => launch setup options (operands args) workDir host

def run (setup : Setup) (argv : List Bytes) (host : Host) : Outcome :=
  let (result,progress) := perform setup (marker :: argv.drop 1) host
  let ended := ending result (argv.headD (text "orion")) setup.colored
  { ending :=
      { ended with
        output := outputs progress.events ++ ended.output
        errors := warnings progress.events ++ ended.errors }
    commands := commands progress.events
    host := progress.state.host
    childOutput := progress.state.childOutput
    childErrors := progress.state.childErrors }

end Program

end ScriptLauncher
