import ScriptLauncher.Program

namespace ScriptLauncher

-- The variables by which users set options, under the names that they give them.
namespace Variable

def config : Bytes := text "ORION_CONFIG"
def logLevel : Bytes := text "ORION_LOG_LEVEL"
def dryRun : Bytes := text "ORION_DRY_RUN"
def noShell : Bytes := text "ORION_NO_SHELL"
def propagateExitCode : Bytes := text "ORION_PROPAGATE_EXIT_CODE"

end Variable

namespace Options

@[simp] theorem names_exact : configName = Variable.config ∧ logLevelName = Variable.logLevel ∧
    dryRunName = Variable.dryRun ∧ noShellName = Variable.noShell ∧
    propagateName = Variable.propagateExitCode :=
  ⟨rfl,rfl,rfl,rfl,rfl⟩

end Options

namespace Settings

-- The files in which users keep settings: their own, and those of a project in the order in which
-- they are tried.
def userFile (dir : Bytes) : Bytes := Path.join [dir,text "config.toml"]

def projectFiles (dir : Bytes) : List Bytes :=
  [Path.join [dir,text ".orion.toml"],Path.join [dir,text ".orion.yaml"],
    Path.join [dir,text ".orion.yml"]]

@[simp] theorem userFile_exact (dir : Bytes) : Path.join [dir,globalFileName] = userFile dir := rfl

@[simp] theorem projectFiles_exact (dir : Bytes) : candidates dir = projectFiles dir := rfl

end Settings

namespace Program

-- What users read: a warning, a fault and the usage, each on a line of its own.
def warningText (told : Bytes) : Bytes := text "Warning: " ++ told ++ text "\n"

def faultText (colored : Bool) (told : Bytes) : Bytes :=
  (if colored then text "\x1b[31;1merror:\x1b[0;22m " else text "error: ") ++ told ++ text "\n"

def usageText (program : Bytes) : Bytes := text "Usage: " ++ program ++ text " <orion-filename>\n"

theorem warningLine_exact (told : Bytes) : Launch.warningLine told = warningText told := rfl

theorem errorLabel_exact (colored : Bool) (told : Bytes) :
    errorLabel colored ++ text " " ++ told ++ text "\n" = faultText colored told := by
  cases colored <;> rfl

theorem usageLine_exact (program : Bytes) : usageLine program ++ text "\n" = usageText program := by
  have line : text " <orion-filename>\n" = text " <orion-filename>" ++ text "\n" := by decide
  rw [usageLine,usageText,line,← List.append_assoc]

theorem usageText_some (program : Bytes) : usageText program ≠ [] := by
  have label : text "Usage: " ≠ [] := by decide
  simp [usageText,label]

end Program

end ScriptLauncher
