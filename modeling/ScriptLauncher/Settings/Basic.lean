import ScriptLauncher.Text.Quoted
import ScriptLauncher.Fault

namespace ScriptLauncher

-- Settings of a launcher and their layers. A layer sets what it names and leaves the rest empty; a
-- later layer wins wherever it is not empty. Switches can be turned on by any layer.

-- How the command is handed over: as one line to a shell, or as separate words.
inductive Mode where
  | shell
  | exec
  deriving DecidableEq

namespace Mode

def name : Mode → Bytes
  | .shell => text "shell"
  | .exec => text "exec"

def ofName? (name : Bytes) : Option Mode :=
  if name == text "shell" then some .shell
  else if name == text "exec" then some .exec
  else none

end Mode

structure LauncherSettings where
  interpreter : Bytes := []
  entryScript : Bytes := []
  -- As written; only a valid name is a `Mode`.
  mode : Bytes := []
  -- Program that runs command lines in place of the system's shell.
  shell : Bytes := []
  envFile : Bytes := []
  propagateExitCode : Bool := false
  resolveEntryScript : Bool := false
  deriving DecidableEq

structure Settings where
  launcher : LauncherSettings := {}
  level : Bytes := []
  warnings : List Bytes := []
  deriving DecidableEq

namespace LauncherSettings

def lead (s : LauncherSettings) : Bytes :=
  s.interpreter ++ [Bytes.space] ++ s.entryScript ++ [Bytes.space]

-- The mode, once interpreter, entry script and mode have been checked in this order.
def check (s : LauncherSettings) : Except Fault Mode :=
  if s.interpreter.isEmpty then .error (.of .emptyCommand)
  else if s.entryScript.isEmpty then .error (.of .emptyEntryScript)
  else match Mode.ofName? s.mode with
    | some mode => .ok mode
    | none =>
      .error (.within [] (.of .invalidMode)
        (text ": " ++ Quoted.quote s.mode ++ text " (want " ++ Quoted.quote Mode.shell.name ++
          text " or " ++ Quoted.quote Mode.exec.name ++ text ")"))

end LauncherSettings

namespace Settings

def default : Settings where
  launcher :=
    { interpreter := text "python3",entryScript := text "main.py",mode := Mode.shell.name }
  level := text "info"

def uppermost (lower upper : Bytes) : Bytes := if upper.isEmpty then lower else upper

-- One layer on top of another. Warnings of both are kept, the lower layer's first.
def merge (lower upper : Settings) : Settings where
  launcher :=
    { interpreter := uppermost lower.launcher.interpreter upper.launcher.interpreter
      entryScript := uppermost lower.launcher.entryScript upper.launcher.entryScript
      mode := uppermost lower.launcher.mode upper.launcher.mode
      shell := uppermost lower.launcher.shell upper.launcher.shell
      envFile := uppermost lower.launcher.envFile upper.launcher.envFile
      propagateExitCode := lower.launcher.propagateExitCode || upper.launcher.propagateExitCode
      resolveEntryScript := lower.launcher.resolveEntryScript || upper.launcher.resolveEntryScript }
  level := uppermost lower.level upper.level
  warnings := lower.warnings ++ upper.warnings

end Settings

end ScriptLauncher
