import ScriptLauncher.Proofs.Files
import ScriptLauncher.Proofs.Outcome

namespace ScriptLauncher

namespace Options

theorem switch_unset {lookup : Bytes → Option Bytes} {name : Bytes}
    (unset : (lookup name).getD [] = []) : switch lookup name = .ok false := by
  unfold switch
  cases given : lookup name with
  | none => rfl
  | some spelling =>
    rw [given] at unset
    cases unset
    rfl

theorem ofEnvironment_unset {vars : Variables}
    (unset : ∀ name ∈ [Variable.config,Variable.dryRun,Variable.noShell,
      Variable.propagateExitCode], vars.value name = []) :
    ofEnvironment vars.get? = .ok { logLevel := vars.value Variable.logLevel } := by
  have dry := switch_unset (unset Variable.dryRun (by simp))
  have plain := switch_unset (unset Variable.noShell (by simp))
  have silent := switch_unset (unset Variable.propagateExitCode (by simp))
  have unnamed := unset Variable.config (by simp)
  unfold Variables.value at unnamed
  simp [ofEnvironment,dry,plain,silent,unnamed,Variables.value]

end Options

namespace Settings

-- Every path at which settings are looked for while no file is named.
def paths (sources : Sources) : List Bytes :=
  (if sources.globalDir.isEmpty then [] else [userFile sources.globalDir]) ++
    projectFiles sources.projectDir

theorem paths_named {sources : Sources} {path : Bytes} (present : path ∈ paths sources) :
    ∃ dir name, Path.Name name ∧ path = Path.join [dir,name] := by
  rcases List.mem_append.mp present with global | project
  · split at global
    · cases global
    · exact ⟨_,_,⟨by decide,by decide,by decide,by decide⟩,List.mem_singleton.mp global⟩
  · simp only [projectFiles,List.mem_cons,List.not_mem_nil,or_false] at project
    rcases project with rfl | rfl | rfl <;>
      exact ⟨_,_,⟨by decide,by decide,by decide,by decide⟩,rfl⟩

-- A layer that loading passes over.
def Missing (layer : Except Fault Settings) : Prop :=
  ∃ fault, layer = .error fault ∧ fault.isMissing = true

theorem loadFile_missing (decoders : Decoders) {host : Host} {sources : Sources} {path : Bytes}
    (present : path ∈ paths sources) (absent : host.Absent path) :
    Missing (loadFile decoders host path) := by
  obtain ⟨dir,name,named,rfl⟩ := paths_named present
  obtain ⟨base,inner,descends,-⟩ :=
    FileSystem.join_descends host.cwd dir (List.forall_mem_nil _) named
  refine ⟨Host.refused (text "open") (Path.join [dir,name]) .noEntry,?_,rfl⟩
  have gone : host.stat (Path.join [dir,name]) = .error .noEntry := absent.stat descends
  rw [loadFile,Host.read,gone]

theorem loadFirst_missing {decoders : Decoders} {host : Host} {tried : List Bytes}
    (missing : ∀ path ∈ tried, Missing (loadFile decoders host path)) :
    Missing (loadFirst decoders host tried) := by
  induction tried with
  | nil => exact ⟨_,rfl,rfl⟩
  | cons path rest ih =>
    obtain ⟨⟨fault,failed,gone⟩,others⟩ := List.forall_mem_cons.mp missing
    simpa [loadFirst,failed,gone] using ih others

theorem Missing.optional {layer : Except Fault Settings} (missing : Missing layer) :
    optional layer = .ok none := by
  obtain ⟨fault,rfl,gone⟩ := missing
  simp [Settings.optional,gone]

theorem load_default (decoders : Decoders) (sources : Sources) {host : Host}
    (unnamed : sources.explicitPath = []) (absent : ∀ path ∈ paths sources, host.Absent path) :
    load decoders sources host = .ok default := by
  have missing (path : Bytes) (present : path ∈ paths sources) :=
    loadFile_missing decoders present (absent path present)
  have global : Missing (loadGlobal decoders sources host) := by
    unfold loadGlobal
    split
    · exact ⟨_,rfl,rfl⟩
    · rename_i some_
      exact missing _ (by simp [paths,some_])
  have project : Missing (loadProject decoders sources host) := by
    simp only [loadProject,unnamed,List.isEmpty_nil,Bool.not_true,Bool.false_eq_true,if_false]
    split
    · exact ⟨_,rfl,rfl⟩
    · exact loadFirst_missing fun path listed => missing path (List.mem_append_right _ listed)
  rw [load,global.optional,project.optional]
  rfl

end Settings

namespace Program
open Launch

-- The settings that a run looks for on a host whose variables name no file.
def unnamed (host : Host) (workDir : Bytes) : Sources :=
  ⟨workDir,[],Settings.defaultGlobalDir host⟩

-- No variable changes what the launcher does, and its log stays away from where settings are.
structure Unswitched (host : Host) (workDir : Bytes) : Prop where
  here : host.workingDirectory = .ok workDir
  unset : ∀ name ∈ [Variable.config,Variable.dryRun,Variable.noShell,
    Variable.propagateExitCode], host.getenv name = []
  level : Log.Level.check (host.getenv Variable.logLevel) = .ok ()
  apart : Log.defaultStateDir host ≠ [] → ∀ path ∈ Settings.paths (unnamed host workDir),
    Host.Apart (host.place (Log.path (Log.defaultStateDir host))) (host.place path)

def defaultCommand (workDir argument : Bytes) : Command :=
  ⟨text "sh",[text "-c",text "python3 main.py " ++ argument],workDir,none⟩

-- One call of the executor with the default command, nothing printed, and success whatever the
-- executor says.
def RunsDefault (setup : Setup) (program argument : Bytes) (host : Host) (workDir : Bytes) :
    Prop :=
  ∃ before after, let done := setup.execute (defaultCommand workDir argument) before
    run setup [program,argument] host =
      { ending := ⟨0,[],[]⟩,commands := [defaultCommand workDir argument],host := after
        childOutput := done.output,childErrors := done.errors }

def levelOnly (host : Host) : Options := { logLevel := host.getenv Variable.logLevel }

theorem Unswitched.prepared {host : Host} {workDir : Bytes} (unswitched : Unswitched host workDir)
    (argument : Bytes) : prepare [argument] host = .ok (levelOnly host,workDir) :=
  prepare_exact.mpr ⟨argument,rfl,Options.ofEnvironment_unset unswitched.unset,unswitched.here,
    unswitched.level⟩

-- The first entry of the log leaves the settings as missing as they were.
theorem Unswitched.started {host : Host} {workDir path : Bytes}
    (unswitched : Unswitched host workDir) (setup : Setup) (options : Options)
    (listed : path ∈ Settings.paths (unnamed host workDir)) (absent : host.Absent path) :
    (started setup options workDir host).host.Absent path := by
  show ((logger setup options workDir host).record setup.clock (versionEntry setup) host).2.Absent
    path
  by_cases off : Log.defaultStateDir host = []
  · have quiet : (logger setup options workDir host).admits (versionEntry setup).level = false := by
      simp [Log.Logger.admits,logger,off]
    rw [Log.Logger.record,quiet]
    exact absent
  · obtain ⟨stays,grows⟩ := (logger setup options workDir host).record_grows setup.clock
      (versionEntry setup) host
    exact absent.grows stays grows (unswitched.apart off path listed)

-- Where no settings file is to be found the launcher hands its argument to the default command,
-- whatever the argument is, whatever else stands on the host and whatever becomes of the child.
theorem absent_settings_run_default {host : Host} {workDir : Bytes}
    (unswitched : Unswitched host workDir)
    (absent : ∀ path ∈ Settings.paths (unnamed host workDir), host.Absent path)
    (setup : Setup) (program argument : Bytes) :
    RunsDefault setup program argument host workDir := by
  have prepared : prepare ([program,argument].drop 1) host = .ok (levelOnly host,workDir) :=
    unswitched.prepared argument
  have loaded : (around setup (levelOnly host) workDir host).settings
      (started setup (levelOnly host) workDir host) = .ok .default :=
    Settings.load_default setup.decoders (unnamed host workDir) rfl fun path listed =>
      unswitched.started setup (levelOnly host) listed (absent path listed)
  have ready : Ready (around setup (levelOnly host) workDir host)
      (request (levelOnly host) ([program,argument].drop 1))
      (started setup (levelOnly host) workDir host) argument .default .shell :=
    ⟨rfl,loaded,by rfl⟩
  -- The default settings look nothing up and name no variables: script, plan and command follow by
  -- computation.
  exact ⟨_,_,run_dispatched prepared ready rfl rfl rfl⟩

-- A worktree with an entry script in it, the user's directory above it, and a child that fails.
def sampleHost (vars : Variables) : Host where
  files :=
    { entries :=
        [([text "u"],.directory),([text "u",text "p"],.directory),
          ([text "u",text "p",text "main.py"],.file ⟨0,0o644,[]⟩),
          ([text "u",text "p",text ".git"],.directory)]
      fresh := 1 }
  cwd := some [text "u",text "p"]
  vars := (text "HOME",text "/u") :: vars

def sampleSetup : Setup where
  decoders := ⟨fun _ => .error [],fun _ => .error []⟩
  execute _ host := { result := some (.of (.childStatus 3)),host }
  clock := ⟨2025,12,30,9,32,51⟩
  runId := text "run"

def verboseHost : Host := sampleHost [(Variable.logLevel,text "debug")]

theorem verbose_runs_default :
    RunsDefault sampleSetup (text "orion") (text "-x; rm 'y'") verboseHost (text "/u/p") :=
  absent_settings_run_default
    { here := by rfl,unset := by decide,level := by rfl,apart := by decide } (by decide) ..

theorem failed_not_default {setup : Setup} {program argument : Bytes} {host : Host}
    {workDir : Bytes} (failed : (run setup [program,argument] host).ending.code = 1) :
    ¬ RunsDefault setup program argument host workDir := by
  rintro ⟨before,after,ran⟩
  rw [ran] at failed
  cases failed

-- Settings can fail to be there in other ways: below a file, or under a name that is too long.
-- These are not passed over, so it is not enough that nothing can be found.
def Unfound (host : Host) (workDir : Bytes) : Prop :=
  ∀ path ∈ Settings.paths (unnamed host workDir), (host.stat path).toOption.isNone = true

instance (host : Host) (workDir : Bytes) : Decidable (Unfound host workDir) :=
  inferInstanceAs (Decidable (∀ _ ∈ _, _))

def blockedHost : Host := sampleHost [(text "XDG_CONFIG_HOME",text "/u/p/main.py")]

def overlongHost : Host :=
  sampleHost [(text "XDG_CONFIG_HOME",Bytes.slash :: List.replicate 256 (byte 'x'))]

theorem unreachable_settings_fail :
    (Unswitched blockedHost (text "/u/p") ∧ Unfound blockedHost (text "/u/p") ∧
      ¬ RunsDefault sampleSetup (text "orion") (text "a") blockedHost (text "/u/p")) ∧
    (Unswitched overlongHost (text "/u/p") ∧ Unfound overlongHost (text "/u/p") ∧
      ¬ RunsDefault sampleSetup (text "orion") (text "a") overlongHost (text "/u/p")) := by
  constructor <;>
    exact ⟨{ here := by rfl,unset := by decide,level := by rfl,apart := by decide +kernel },
      by decide +kernel,failed_not_default (by decide +kernel)⟩

end Program

end ScriptLauncher
