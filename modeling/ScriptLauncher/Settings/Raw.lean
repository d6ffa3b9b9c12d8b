import ScriptLauncher.Settings.Basic

namespace ScriptLauncher

-- Settings from a decoded document. A document is a table of sections; the launcher knows the
-- sections `launcher` and `log` and the keys in them. Whatever it does not know is a warning, and a
-- known key with a value of another type is passed over.

inductive Raw where
  | text (value : Bytes)
  | flag (value : Bool)
  | table (entries : List (Bytes × Raw))
  | other
  deriving Nonempty

abbrev RawTable := List (Bytes × Raw)

namespace RawTable

def get? (table : RawTable) (key : Bytes) : Option Raw :=
  (table.find? (·.1 == key)).map (·.2)

def textAt (table : RawTable) (key : Bytes) : Bytes :=
  match table.get? key with
  | some (.text value) => value
  | _ => []

def flagAt (table : RawTable) (key : Bytes) : Bool :=
  match table.get? key with
  | some (.flag value) => value
  | _ => false

def tableAt (table : RawTable) (key : Bytes) : RawTable :=
  match table.get? key with
  | some (.table entries) => entries
  | _ => []

end RawTable

namespace Settings

def launcherSection : Bytes := text "launcher"
def logSection : Bytes := text "log"

def launcherKeys : List Bytes :=
  [text "interpreter",text "entry_script",text "mode",text "shell",text "env_file",
    text "propagate_exit_code",text "resolve_entry_script"]

def logKeys : List Bytes := [text "level"]

def sectionWarnings (name : Bytes) (known : List Bytes) : Raw → List Bytes
  | .table entries =>
    (entries.filter fun (key,_) => !known.contains key).map fun (key,_) =>
      text "unknown key in [" ++ name ++ text "]: " ++ key
  | _ => [text "section [" ++ name ++ text "] must be a table"]

def entryWarnings : Bytes × Raw → List Bytes
  | (name,value) =>
    if name == launcherSection then sectionWarnings name launcherKeys value
    else if name == logSection then sectionWarnings name logKeys value
    else [text "unknown section: " ++ name]

-- The layer that a document describes. Warnings are in byte order.
def ofRaw (document : RawTable) : Settings :=
  let launcher := document.tableAt launcherSection
  { launcher :=
      { interpreter := launcher.textAt (text "interpreter")
        entryScript := launcher.textAt (text "entry_script")
        mode := launcher.textAt (text "mode")
        shell := launcher.textAt (text "shell")
        envFile := launcher.textAt (text "env_file")
        propagateExitCode := launcher.flagAt (text "propagate_exit_code")
        resolveEntryScript := launcher.flagAt (text "resolve_entry_script") }
    level := (document.tableAt logSection).textAt (text "level")
    warnings := (document.flatMap entryWarnings).mergeSort Bytes.le }

end Settings

end ScriptLauncher
