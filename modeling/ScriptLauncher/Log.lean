import ScriptLauncher.Settings.Load

namespace ScriptLauncher

-- The log. An entry is one line with time, level, run and category in brackets before the message.
-- A logger appends entries at or above its level to one file; it opens the file with the first
-- entry and keeps it open until closed, so entries after a removal of the file are lost until then.
-- Nothing that goes wrong with the log reaches the launcher.

namespace Log

inductive Level where
  | debug
  | info
  | warn
  | error
  deriving DecidableEq

namespace Level

def severity : Level → Int
  | .debug => -4
  | .info => 0
  | .warn => 4
  | .error => 8

def label : Level → Bytes
  | .debug => text "DEBUG"
  | .info => text "INFO"
  | .warn => text "WARN"
  | .error => text "ERROR"

def ofName? (name : Bytes) : Option Level :=
  if name == text "debug" then some .debug
  else if name == text "info" then some .info
  else if name == text "warn" then some .warn
  else if name == text "error" then some .error
  else none

-- The level with a name; any other name counts as `info`.
def ofName (name : Bytes) : Level := (ofName? name).getD .info

-- The level with a severity; any other number counts as `info`.
def ofSeverity (n : Int) : Level :=
  if n == -4 then .debug else if n == 4 then .warn else if n == 8 then .error else .info

-- A level from outside must be a known name or empty.
def check (name : Bytes) : Except Fault Unit :=
  if name.isEmpty || (ofName? name).isSome then .ok ()
  else .error (.within [] (.of .invalidLogLevel) (text ": " ++ Quoted.quote name))

end Level

structure Moment where
  year : Nat
  month : Nat
  day : Nat
  hour : Nat
  minute : Nat
  second : Nat
  deriving DecidableEq

def Moment.render (t : Moment) : Bytes :=
  Bytes.padded 4 t.year ++ text "-" ++ Bytes.padded 2 t.month ++ text "-" ++ Bytes.padded 2 t.day ++
    text " " ++ Bytes.padded 2 t.hour ++ text ":" ++ Bytes.padded 2 t.minute ++ text ":" ++
    Bytes.padded 2 t.second

structure Entry where
  level : Level
  -- Empty for entries that belong to no run.
  runId : Bytes
  category : Bytes
  message : Bytes
  deriving DecidableEq

def runIdWidth : Nat := 8

def runLabel (runId : Bytes) : Bytes :=
  if runId.isEmpty then text "global" else text "run-" ++ runId.take runIdWidth

def render (time : Moment) (entry : Entry) : Bytes :=
  text "[" ++ time.render ++ text "] [" ++ entry.level.label ++ text "] [" ++
    runLabel entry.runId ++ text "] [" ++ entry.category ++ text "] " ++ entry.message ++ text "\n"

def stateDir (stateHome : Bytes) : Bytes := Path.join [stateHome,Settings.appDirName]

def path (stateDir : Bytes) : Bytes := Path.join [stateDir,text "logs",text "orion.log"]

def defaultStateDir (host : Host) : Bytes :=
  let base := Settings.userDir host (text "XDG_STATE_HOME") [text ".local",text "state"]
  (base.map stateDir).getD []

structure Logger where
  -- Empty turns logging off.
  stateDir : Bytes
  level : Level
  -- Identity of the open file.
  handle : Option Nat := none

namespace Logger

-- The open file, opened now if need be together with the directories above it.
def ensureFile (logger : Logger) (host : Host) : Except Refusal (Nat × Host) :=
  match logger.handle with
  | some id => .ok (id,host)
  | none =>
    match host.files.makeDirectories host.cwd (Path.parent (path logger.stateDir)) with
    | .error (how,_) => .error how
    | .ok made =>
      (made.openFile host.cwd (path logger.stateDir) 0o640).map fun (id,files) =>
        (id,{ host with files })

-- Directories that could be made stay even if others cannot be made or the file cannot be opened.
def prepared (logger : Logger) (host : Host) : Host :=
  let made := host.files.makeDirectories host.cwd (Path.parent (path logger.stateDir))
  { host with files := FileSystem.left made }

def admits (logger : Logger) (level : Level) : Bool :=
  !logger.stateDir.isEmpty && logger.level.severity ≤ level.severity

def record (logger : Logger) (time : Moment) (entry : Entry) (host : Host) : Logger × Host :=
  if logger.admits entry.level then
    match logger.ensureFile host with
    | .ok (id,opened) =>
      ({ logger with handle := some id },
        { opened with files := opened.files.modify id (· ++ render time entry) })
    | .error _ => (logger,logger.prepared host)
  else (logger,host)

def close (logger : Logger) : Logger := { logger with handle := none }

-- What closing says. A logger without an open file has nothing to close.
def closeFault? (logger : Logger) (host : Host) : Option Fault :=
  (logger.handle.bind host.files.refuseClose).map (Host.refused (text "close") (path logger.stateDir))

end Logger

end Log

end ScriptLauncher
