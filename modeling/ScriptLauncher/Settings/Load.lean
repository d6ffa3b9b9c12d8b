import ScriptLauncher.Settings.Raw
import ScriptLauncher.Host

namespace ScriptLauncher

-- Where settings come from. Below everything are the defaults, then the user's file, then one file
-- of the project: the one named explicitly, or else the first of three names that exists. A file
-- that exists decides even when it cannot be read or decoded; then loading fails.

-- Readers of the two formats. A reader that fails says why.
structure Decoders where
  toml : Bytes → Except Bytes RawTable
  yaml : Bytes → Except Bytes RawTable

-- Where to look for settings. An empty path stands for none.
structure Sources where
  projectDir : Bytes
  explicitPath : Bytes
  globalDir : Bytes

namespace Settings

def appDirName : Bytes := text "orion"
def globalFileName : Bytes := text "config.toml"

def globalDir (configHome : Bytes) : Bytes := Path.join [configHome,appDirName]

def globalPath (configHome : Bytes) : Bytes := Path.join [globalDir configHome,globalFileName]

-- The project's settings files, in the order in which they are tried.
def candidates (projectDir : Bytes) : List Bytes :=
  [text ".orion.toml",text ".orion.yaml",text ".orion.yml"].map fun name =>
    Path.join [projectDir,name]

-- A user directory: the variable that names it, or else a place below the home directory. None when
-- neither is set.
def userDir (host : Host) (name : Bytes) (below : List Bytes) : Option Bytes :=
  let named := host.getenv name
  if !named.isEmpty then some named
  else
    let home := host.getenv (text "HOME")
    if home.isEmpty then none else some (Path.join (home :: below))

def defaultGlobalDir (host : Host) : Bytes :=
  ((userDir host (text "XDG_CONFIG_HOME") [text ".config"]).map globalDir).getD []

def isYaml (path : Bytes) : Bool :=
  let ending := (Path.suffix path).lower
  ending == text ".yaml" || ending == text ".yml"

-- The layer in one file; its name tells the format.
def loadFile (decoders : Decoders) (host : Host) (path : Bytes) : Except Fault Settings :=
  match host.read path with
  | .error fault => .error fault
  | .ok data =>
    match (if isYaml path then decoders.yaml data else decoders.toml data) with
    | .error detail =>
      .error (.context (text "parse " ++ path ++ text ": ") (.of (.malformed detail)))
    | .ok document => .ok (ofRaw document)

def loadGlobal (decoders : Decoders) (sources : Sources) (host : Host) : Except Fault Settings :=
  if sources.globalDir.isEmpty then .error (.of .absent)
  else loadFile decoders host (Path.join [sources.globalDir,globalFileName])

def loadFirst (decoders : Decoders) (host : Host) : List Bytes → Except Fault Settings
  | [] => .error (.of .absent)
  | path :: rest =>
    match loadFile decoders host path with
    | .error fault => if fault.isMissing then loadFirst decoders host rest else .error fault
    | .ok settings => .ok settings

def loadProject (decoders : Decoders) (sources : Sources) (host : Host) : Except Fault Settings :=
  if !sources.explicitPath.isEmpty then
    match loadFile decoders host sources.explicitPath with
    | .error fault =>
      if fault.isMissing then
        .error (.context (text "config file " ++ sources.explicitPath ++ text ": ")
          (.of .configNotFound))
      else .error fault
    | .ok settings => .ok settings
  else if sources.projectDir.isEmpty then .error (.of .absent)
  else loadFirst decoders host (candidates sources.projectDir)

-- A layer that may be missing: nothing where it is, a fault where it is there and unusable.
def optional : Except Fault Settings → Except Fault (Option Settings)
  | .ok settings => .ok (some settings)
  | .error fault => if fault.isMissing then .ok none else .error fault

-- The defaults under the user's layer under the project's layer.
def load (decoders : Decoders) (sources : Sources) (host : Host) : Except Fault Settings :=
  match optional (loadGlobal decoders sources host) with
  | .error fault => .error fault
  | .ok globalLayer =>
    match optional (loadProject decoders sources host) with
    | .error fault => .error fault
    | .ok projectLayer =>
      .ok ((globalLayer.toList ++ projectLayer.toList).foldl merge default)

end Settings

end ScriptLauncher
