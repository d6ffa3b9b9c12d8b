import ScriptLauncher.Proofs.Layers

namespace ScriptLauncher

namespace Settings

-- Of paths that are tried one after the other, those up to the first where something is.
def tried (host : Host) : List Bytes → List Bytes
  | [] => []
  | path :: rest => path :: if host.lacks path then tried host rest else []

def userReads (sources : Sources) : List Bytes :=
  if sources.globalDir.isEmpty then [] else [userFile sources.globalDir]

def projectReads (sources : Sources) (host : Host) : List Bytes :=
  if !sources.explicitPath.isEmpty then [sources.explicitPath]
  else if sources.projectDir.isEmpty then []
  else tried host (projectFiles sources.projectDir)

-- Every path that is read to load settings. Those of the project are not read after a user's file
-- that is of no use.
def reads (decoders : Decoders) (sources : Sources) (host : Host) : List Bytes :=
  userReads sources ++
    if (optional (loadGlobal decoders sources host)).isOk then projectReads sources host else []

section

variable {decoders : Decoders} {sources : Sources} {one other : Host}

theorem loadFile_congr {path : Bytes} (same : other.read path = one.read path) :
    loadFile decoders other path = loadFile decoders one path := by
  rw [loadFile,loadFile,same]

-- Trying goes on from exactly those files that are not there.
theorem loadFile_there {path : Bytes} (there : one.lacks path = false) {fault : Fault}
    (failed : loadFile decoders one path = .error fault) : fault.isMissing = false := by
  obtain ⟨result,gives⟩ := gives_exists decoders there
  cases gives with
  | layer holds =>
    rw [holds.loaded] at failed
    cases failed
  | fault unusable =>
    obtain ⟨told,there⟩ := unusable.failed
    rw [told] at failed
    cases failed
    exact there

theorem loadFirst_congr {paths : List Bytes}
    (same : ∀ path ∈ tried one paths, other.read path = one.read path) :
    loadFirst decoders other paths = loadFirst decoders one paths := by
  induction paths with
  | nil => rfl
  | cons path rest ih =>
    obtain ⟨here,others⟩ := List.forall_mem_cons.mp same
    rw [loadFirst,loadFirst,loadFile_congr here]
    cases loaded : loadFile decoders one path with
    | ok settings => rfl
    | error fault =>
      dsimp only
      cases lacks : one.lacks path with
      | true =>
        rw [lacks,if_pos rfl] at others
        rw [ih others]
      | false => simp [loadFile_there lacks loaded]

theorem loadGlobal_congr (same : ∀ path ∈ userReads sources, other.read path = one.read path) :
    loadGlobal decoders sources other = loadGlobal decoders sources one := by
  unfold loadGlobal
  split
  · rfl
  · rename_i on
    exact loadFile_congr (same _ (by simp [userReads,on]))

theorem loadProject_congr
    (same : ∀ path ∈ projectReads sources one, other.read path = one.read path) :
    loadProject decoders sources other = loadProject decoders sources one := by
  unfold projectReads at same
  unfold loadProject
  split
  · rename_i named
    rw [if_pos named,List.forall_mem_singleton] at same
    rw [loadFile_congr same]
  · rename_i unnamed
    rw [if_neg unnamed] at same
    split
    · rfl
    · rename_i on
      rw [if_neg on] at same
      exact loadFirst_congr same

-- Settings come from the files that are read for them and from nothing else on a host.
theorem load_congr
    (same : ∀ path ∈ reads decoders sources one, other.read path = one.read path) :
    load decoders sources other = load decoders sources one := by
  unfold reads at same
  obtain ⟨user,project⟩ := List.forall_mem_append.mp same
  rw [load,load,loadGlobal_congr user]
  cases global : optional (loadGlobal decoders sources one) with
  | error fault => rfl
  | ok below =>
    simp only [global,Except.isOk,Except.toBool,if_true] at project
    dsimp only
    rw [loadProject_congr project]

end

end Settings

theorem Dotenv.load_congr {one other : Host} {path : Bytes} (same : other.read path = one.read path) :
    load other path = load one path := by
  simp only [load,same]

namespace Program
open Launch

-- A run whose launch has found its settings and its mode.
structure Enters (setup : Setup) (argv : List Bytes) (host : Host) (options : Options)
    (workDir : Bytes) (settings : Settings) (mode : Mode) : Prop where
  prepared : prepare (argv.drop 1) host = .ok (options,workDir)
  loaded : Settings.load setup.decoders (sources options workDir host) host = .ok settings
  checked : (effective settings (request options (argv.drop 1))).check = .ok mode

-- Every path at which a run reads before it comes to a command, if it gets that far.
inductive Consults (setup : Setup) (argv : List Bytes) (host : Host) : Bytes → Prop where
  | settings (prepared : prepare (argv.drop 1) host = .ok (options,workDir))
      (listed : path ∈ Settings.reads setup.decoders (sources options workDir host) host) :
      Consults setup argv host path
  | envFile (enters : Enters setup argv host options workDir settings mode)
      (decided : plan (around setup options workDir host)
        (effective settings (request options (argv.drop 1))) mode script filename = .ok inv)
      (real : options.dryRun = false) (named : settings.launcher.envFile ≠ []) :
      Consults setup argv host (envPath workDir settings.launcher.envFile)

end Program

end ScriptLauncher
