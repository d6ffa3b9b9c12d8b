import ScriptLauncher.Program

namespace ScriptLauncher.Footprint

-- The paths that a run looks at. They become known in steps: first where settings may be, then what
-- the settings name, and last the repository that a marker names. A host that holds these paths as
-- they are is enough for a run.

def settings (host : Host) (workDir : Bytes) : List Bytes :=
  let user := Path.join [Settings.defaultGlobalDir host,Settings.globalFileName]
  let explicitPath := host.getenv Options.configName
  user :: if explicitPath.isEmpty then Settings.candidates workDir else [explicitPath]

def launch (host : Host) (workDir : Bytes) (launcher : LauncherSettings) : List Bytes :=
  let above := Worktree.ancestry workDir
  let scripts := (workDir :: above).map fun dir => Path.join [dir,launcher.entryScript]
  let markers := above.map fun dir => Path.join [dir,Worktree.marker]
  let vars := if launcher.envFile.isEmpty then [] else [Launch.envPath workDir launcher.envFile]
  launcher.entryScript :: scripts ++ markers ++ vars ++ [Log.path (Log.defaultStateDir host)]

def repository (host : Host) (workDir : Bytes) : List Bytes :=
  match Worktree.named host workDir with
  | .ok ⟨git,_⟩ =>
    git :: [text "HEAD",text "commondir",text "packed-refs"].map fun name => Path.join [git,name]
  | .error _ => []

def shared (host : Host) (workDir : Bytes) : List Bytes :=
  match Worktree.named host workDir with
  | .ok ⟨git,_⟩ =>
    match host.read (Path.join [git,text "commondir"]) with
    | .ok data =>
      let named := Space.trim data
      let dir := if Path.isAbsolute named then named else Path.join [git,named]
      [dir,Path.join [dir,text "packed-refs"]]
    | .error _ => []
  | .error _ => []

def changes (before after : Host) : List (Bytes × Bytes) :=
  after.files.entries.filterMap fun
    | (place,.file f) =>
      match before.files.get? place with
      | some (.file g) => if g.data == f.data then none else some (Host.locationPath place,f.data)
      | _ => some (Host.locationPath place,f.data)
    | _ => none

end ScriptLauncher.Footprint
