import ScriptLauncher.Text.Quoted
import ScriptLauncher.Fault

namespace ScriptLauncher

-- Options of the launcher. All of them are read from the environment, so that every argument is
-- free to name a file. An empty value is no value.

structure Options where
  configPath : Bytes := []
  logLevel : Bytes := []
  dryRun : Bool := false
  noShell : Bool := false
  propagateExitCode : Bool := false
  deriving DecidableEq

namespace Options

def configName : Bytes := text "ORION_CONFIG"
def logLevelName : Bytes := text "ORION_LOG_LEVEL"
def dryRunName : Bytes := text "ORION_DRY_RUN"
def noShellName : Bytes := text "ORION_NO_SHELL"
def propagateName : Bytes := text "ORION_PROPAGATE_EXIT_CODE"

def trueSpellings : List Bytes :=
  [text "1",text "t",text "T",text "TRUE",text "true",text "True"]

def falseSpellings : List Bytes :=
  [text "0",text "f",text "F",text "FALSE",text "false",text "False"]

def switch? (spelling : Bytes) : Option Bool :=
  if trueSpellings.contains spelling then some true
  else if falseSpellings.contains spelling then some false
  else none

def switch (lookup : Bytes → Option Bytes) (name : Bytes) : Except Fault Bool :=
  match lookup name with
  | none => .ok false
  | some [] => .ok false
  | some spelling =>
    match switch? spelling with
    | some value => .ok value
    | none =>
      .error (.within [] (.of .invalidEnvValue)
        (text ": " ++ name ++ text "=" ++ Quoted.quote spelling))

-- The options; the first switch that cannot be read decides the fault.
def ofEnvironment (lookup : Bytes → Option Bytes) : Except Fault Options :=
  match switch lookup dryRunName with
  | .error fault => .error fault
  | .ok dryRun =>
    match switch lookup noShellName with
    | .error fault => .error fault
    | .ok noShell =>
      match switch lookup propagateName with
      | .error fault => .error fault
      | .ok propagateExitCode =>
        .ok
          { configPath := (lookup configName).getD []
            logLevel := (lookup logLevelName).getD []
            dryRun,noShell,propagateExitCode }

end Options

end ScriptLauncher
