import ScriptLauncher.Proofs.Confinement
import ScriptLauncher.Proofs.Isolation
import ScriptLauncher.Proofs.Reads

namespace ScriptLauncher

namespace Options

-- The fault of a switch whose value says neither yes nor no.
def unreadable (name spelling : Bytes) : Fault :=
  .within [] (.of .invalidEnvValue) (text ": " ++ name ++ text "=" ++ Quoted.quote spelling)

theorem switch_set {vars : Variables} {name : Bytes} (set : vars.value name ≠ []) :
    switch vars.get? name = match switch? (vars.value name) with
      | some on => .ok on
      | none => .error (unreadable name (vars.value name)) := by
  unfold Variables.value at set ⊢
  unfold switch
  cases given : vars.get? name with
  | none =>
    rw [given] at set
    exact (set rfl).elim
  | some spelling =>
    rw [given] at set
    cases spelling with
    | nil => exact (set rfl).elim
    | cons b rest => rfl

theorem switch?_true {spelling : Bytes} {on : Bool} (known : switch? spelling = some on) :
    on = decide (spelling ∈ trueSpellings) := by
  unfold switch? at known
  split at known
  · rename_i yes
    cases known
    simpa using yes
  · rename_i no
    split at known
    · cases known
      simpa using no
    · cases known

end Options

namespace LauncherSettings

def unknownMode (name : Bytes) : Fault :=
  .within [] (.of .invalidMode) (text ": " ++ Quoted.quote name ++ text " (want " ++
    Quoted.quote Mode.shell.name ++ text " or " ++ Quoted.quote Mode.exec.name ++ text ")")

theorem check_named {launcher : LauncherSettings} (interpreter : launcher.interpreter ≠ [])
    (script : launcher.entryScript ≠ []) : launcher.check = match Mode.ofName? launcher.mode with
      | some mode => .ok mode
      | none => .error (unknownMode launcher.mode) := by
  simp only [check,List.isEmpty_iff,interpreter,script,if_false]
  rfl

end LauncherSettings

namespace Settings

-- What the defaults set stays set under all layers.
theorem launcher_set (read : LauncherSettings → Bytes)
    (merges : ∀ lower upper, read (merge lower upper).launcher =
      uppermost (read lower.launcher) (read upper.launcher))
    (set : read default.launcher ≠ []) (layers : List Settings) :
    read (layers.foldl merge default).launcher ≠ [] := by
  generalize default = bottom at set ⊢
  induction layers generalizing bottom with
  | nil => exact set
  | cons layer rest ih =>
    refine ih _ ?_
    rw [merges]
    unfold uppermost
    split
    · exact set
    · rename_i own
      simpa using own

theorem load_named {decoders : Decoders} {sources : Sources} {host : Host} {settings : Settings}
    (loaded : load decoders sources host = .ok settings) :
    settings.launcher.interpreter ≠ [] ∧ settings.launcher.entryScript ≠ [] := by
  cases load_exact.mp loaded with
  | loaded global project =>
    exact ⟨launcher_set LauncherSettings.interpreter (fun _ _ => rfl) (by decide) _,
      launcher_set LauncherSettings.entryScript (fun _ _ => rfl) (by decide) _⟩

section

variable {decoders : Decoders} {sources : Sources} {host : Host} {fault : Fault}

theorem userFault_exact : Gives decoders host (globalFile sources host) (.error fault) ↔
    optional (loadGlobal decoders sources host) = .error fault := by
  refine ⟨Gives.global,fun failed => ?_⟩
  obtain ⟨result,gives⟩ := globalFile_gives decoders sources host
  rw [gives.global] at failed
  exact failed ▸ gives

theorem projectFault_exact :
    (sources.explicitPath ≠ [] ∧ host.lacks sources.explicitPath = true ∧
        fault = notFound sources.explicitPath ∨
      Gives decoders host (decidingFile sources host) (.error fault)) ↔
    optional (loadProject decoders sources host) = .error fault := by
  constructor
  · rintro (⟨named,lacks,rfl⟩ | gives)
    · exact explicit_missing named lacks
    · exact gives.project
  · intro failed
    rcases decidingFile_gives decoders sources host with ⟨named,lacks⟩ | ⟨result,gives⟩
    · rw [explicit_missing named lacks] at failed
      cases failed
      exact .inl ⟨named,lacks,rfl⟩
    · rw [gives.project] at failed
      exact .inr (failed ▸ gives)

end

end Settings

namespace Program
open Launch

-- The switches among the variables, in the order in which they are read.
inductive Toggle where
  | dryRun
  | noShell
  | propagateExitCode

def Toggle.name : Toggle → Bytes
  | .dryRun => Variable.dryRun
  | .noShell => Variable.noShell
  | .propagateExitCode => Variable.propagateExitCode

def Toggle.On (host : Host) (which : Toggle) : Prop :=
  host.getenv which.name ∈ Options.trueSpellings

instance (host : Host) (which : Toggle) : Decidable (which.On host) :=
  inferInstanceAs (Decidable (_ ∈ _))

-- The options that the variables of a host name, for switches that can be read.
def chosen (host : Host) : Options where
  configPath := host.getenv Variable.config
  logLevel := host.getenv Variable.logLevel
  dryRun := decide (Toggle.dryRun.On host)
  noShell := decide (Toggle.noShell.On host)
  propagateExitCode := decide (Toggle.propagateExitCode.On host)

-- The working directory of a run and the settings that it finds from there.
structure Finds (setup : Setup) (host : Host) (workDir : Bytes) (settings : Settings) : Prop where
  here : host.workingDirectory = .ok workDir
  loaded : Settings.load setup.decoders (sources (chosen host) workDir host) host = .ok settings

-- All that can stop a run, in the order in which it is looked at.
inductive Check where
  | arguments
  | toggle (which : Toggle)
  | directory
  | level
  | userSettings
  | projectSettings
  | mode
  | interpreter
  | envFile

def Check.rank : Check → Nat
  | .arguments => 0
  | .toggle .dryRun => 1
  | .toggle .noShell => 2
  | .toggle .propagateExitCode => 3
  | .directory => 4
  | .level => 5
  | .userSettings => 6
  | .projectSettings => 7
  | .mode => 8
  | .interpreter => 9
  | .envFile => 10

-- The settings want no shell, or a variable does.
def Bare (host : Host) (settings : Settings) : Prop :=
  Toggle.noShell.On host ∨ settings.launcher.mode = Mode.exec.name

-- A check that fails on a host as it is when a run begins, and the fault that says so. Whether other
-- checks fail as well does not matter here.
inductive Fails (setup : Setup) (argv : List Bytes) (host : Host) : Check → Fault → Prop where
  | arguments (wrong : (argv.drop 1).length ≠ 1) : Fails setup argv host .arguments
      (.within [] (.of .usage)
        (text ": expected 1 argument, got " ++ Bytes.ofNat (argv.drop 1).length))
  | toggle (set : host.getenv which.name ≠ [])
      (neither : Options.switch? (host.getenv which.name) = none) :
      Fails setup argv host (.toggle which)
        (Options.unreadable which.name (host.getenv which.name))
  | directory (lost : host.workingDirectory = .error fault) :
      Fails setup argv host .directory (.context (text "get current directory: ") fault)
  | level (set : host.getenv Variable.logLevel ≠ [])
      (unknown : Log.Level.ofName? (host.getenv Variable.logLevel) = none) :
      Fails setup argv host .level (.within [] (.of .invalidLogLevel)
        (text ": " ++ Quoted.quote (host.getenv Variable.logLevel)))
  | userSettings (here : host.workingDirectory = .ok workDir)
      (user : Settings.Gives setup.decoders host
        (Settings.globalFile (sources (chosen host) workDir host) host) (.error fault)) :
      Fails setup argv host .userSettings (.context (text "load config: ") fault)
  | missing (here : host.workingDirectory = .ok workDir)
      (named : host.getenv Variable.config ≠ [])
      (lacks : host.lacks (host.getenv Variable.config) = true) :
      Fails setup argv host .projectSettings (.context (text "load config: ")
        (Settings.notFound (host.getenv Variable.config)))
  | projectSettings (here : host.workingDirectory = .ok workDir)
      (project : Settings.Gives setup.decoders host
        (Settings.decidingFile (sources (chosen host) workDir host) host) (.error fault)) :
      Fails setup argv host .projectSettings (.context (text "load config: ") fault)
  | mode (finds : Finds setup host workDir settings) (shell : ¬Toggle.noShell.On host)
      (unknown : Mode.ofName? settings.launcher.mode = none) :
      Fails setup argv host .mode (LauncherSettings.unknownMode settings.launcher.mode)
  | unsplit (finds : Finds setup host workDir settings) (bare : Bare host settings)
      (open_ : LineRules.standard.split settings.launcher.interpreter = .error fault) :
      Fails setup argv host .interpreter (.context (text "parse interpreter: ") fault)
  | wordless (finds : Finds setup host workDir settings) (bare : Bare host settings)
      (none_ : LineRules.standard.split settings.launcher.interpreter = .ok []) :
      Fails setup argv host .interpreter (.of .emptyCommand)
  | envFile (finds : Finds setup host workDir settings) (real : ¬Toggle.dryRun.On host)
      (named : settings.launcher.envFile ≠ [])
      (lost : Dotenv.load host (envPath workDir settings.launcher.envFile) = .error fault) :
      Fails setup argv host .envFile fault

-- All checks before a rank pass.
def Passed (setup : Setup) (argv : List Bytes) (host : Host) (rank : Nat) : Prop :=
  ∀ check fault, Fails setup argv host check fault → rank ≤ check.rank

structure First (setup : Setup) (argv : List Bytes) (host : Host) (check : Check) (fault : Fault) :
    Prop where
  fails : Fails setup argv host check fault
  passed : Passed setup argv host check.rank

theorem first_exists {setup : Setup} {argv : List Bytes} {host : Host}
    (some_ : ∃ check fault, Fails setup argv host check fault) :
    ∃ check fault, First setup argv host check fault := by
  obtain ⟨check,fault,fails⟩ := some_
  induction rank : check.rank using Nat.strongRecOn generalizing check fault with
  | ind rank ih =>
    by_cases earlier : ∃ other told, Fails setup argv host other told ∧ other.rank < check.rank
    · obtain ⟨other,told,failed,before⟩ := earlier
      exact ih _ (rank ▸ before) other told failed rfl
    · refine ⟨check,fault,fails,fun other told failed => Nat.le_of_not_lt fun before => ?_⟩
      exact earlier ⟨other,told,failed,before⟩

-- A tree of files without tricks, and a log that overlaps with nothing that is read.
structure LogBeside (setup : Setup) (argv : List Bytes) (host : Host) : Prop where
  sound : host.files.Sound
  beside : ∀ path, Consults setup argv host path → Log.defaultStateDir host ≠ [] →
    host.Beside (Log.path (Log.defaultStateDir host)) path

section

variable {setup : Setup} {argv : List Bytes} {host : Host} {rank : Nat}

-- What is known once a check has passed.

theorem passed_toggle (passed : Passed setup argv host rank) (which : Toggle)
    (late : (Check.toggle which).rank < rank) :
    Options.switch host.vars.get? which.name = .ok (decide (which.On host)) := by
  by_cases set : host.getenv which.name = []
  · have off : ¬which.On host := by
      unfold Toggle.On
      rw [set]
      decide
    have unset : Options.switch host.vars.get? which.name = .ok false := Options.switch_unset set
    simpa [off] using unset
  · cases known : Options.switch? (host.getenv which.name) with
    | none => exact absurd (passed _ _ (.toggle set known)) (Nat.not_le_of_lt late)
    | some on =>
      have read := Options.switch_set set
      rw [show Options.switch? (host.vars.value which.name) = some on from known,
        Options.switch?_true known] at read
      exact read

theorem passed_options (passed : Passed setup argv host rank)
    (late : Check.directory.rank ≤ rank) :
    Options.ofEnvironment host.vars.get? = .ok (chosen host) := by
  have dry := passed_toggle passed .dryRun (Nat.lt_of_lt_of_le (by decide) late)
  have bare := passed_toggle passed .noShell (Nat.lt_of_lt_of_le (by decide) late)
  have propagates := passed_toggle passed .propagateExitCode (Nat.lt_of_lt_of_le (by decide) late)
  unfold Toggle.name at dry bare propagates
  simp only [Options.ofEnvironment,Options.names_exact,dry,bare,propagates]
  rfl

theorem passed_arguments (passed : Passed setup argv host rank) (late : 0 < rank) :
    ∃ filename, argv.drop 1 = [filename] := by
  by_cases single : (argv.drop 1).length = 1
  · exact List.length_eq_one_iff.mp single
  · exact absurd (passed _ _ (.arguments single)) (Nat.not_le_of_lt late)

theorem passed_directory (passed : Passed setup argv host rank) (late : Check.directory.rank < rank) :
    ∃ workDir, host.workingDirectory = .ok workDir := by
  cases here : host.workingDirectory with
  | error fault => exact absurd (passed _ _ (.directory here)) (Nat.not_le_of_lt late)
  | ok workDir => exact ⟨workDir,rfl⟩

theorem level_known {name : Bytes} (known : name = [] ∨ Log.Level.ofName? name ≠ none) :
    Log.Level.check name = .ok () := by
  unfold Log.Level.check
  rcases known with rfl | named
  · rfl
  · simp [Option.isSome_iff_ne_none.mpr named]

theorem passed_level (passed : Passed setup argv host rank) (late : Check.level.rank < rank) :
    Log.Level.check (chosen host).logLevel = .ok () := by
  apply level_known
  by_cases set : host.getenv Variable.logLevel = []
  · exact .inl set
  · refine .inr fun unknown => ?_
    exact absurd (passed _ _ (.level set unknown)) (Nat.not_le_of_lt late)

theorem passed_prepared (passed : Passed setup argv host rank)
    (late : Check.userSettings.rank ≤ rank) : ∃ workDir, host.workingDirectory = .ok workDir ∧
      prepare (argv.drop 1) host = .ok (chosen host,workDir) := by
  obtain ⟨filename,single⟩ := passed_arguments passed (Nat.lt_of_lt_of_le (by decide) late)
  obtain ⟨workDir,here⟩ := passed_directory passed (Nat.lt_of_lt_of_le (by decide) late)
  have read := passed_options passed (Nat.le_trans (by decide) late)
  have level := passed_level passed (Nat.lt_of_lt_of_le (by decide) late)
  exact ⟨workDir,here,prepare_exact.mpr ⟨filename,single,read,here,level⟩⟩

theorem singleArgument_wrong {args : List Bytes} (wrong : args.length ≠ 1) :
    singleArgument args = .error (.within [] (.of .usage)
      (text ": expected 1 argument, got " ++ Bytes.ofNat args.length)) := by
  unfold singleArgument
  split
  · exact (wrong rfl).elim
  · rfl

theorem level_unknown {name : Bytes} (set : name ≠ []) (unknown : Log.Level.ofName? name = none) :
    Log.Level.check name = .error (.within [] (.of .invalidLogLevel)
      (text ": " ++ Quoted.quote name)) := by
  simp [Log.Level.check,set,unknown]

-- A failing switch, given that those before it can be read.
theorem first_toggle {which : Toggle} (passed : Passed setup argv host (Check.toggle which).rank)
    (set : host.getenv which.name ≠ [])
    (neither : Options.switch? (host.getenv which.name) = none) :
    Options.ofEnvironment host.vars.get? =
      .error (Options.unreadable which.name (host.getenv which.name)) := by
  have failed := Options.switch_set set
  rw [show Options.switch? (host.vars.value which.name) = none from neither] at failed
  cases which with
  | dryRun =>
    unfold Toggle.name at failed
    simp only [Options.ofEnvironment,Options.names_exact,failed]
    rfl
  | noShell =>
    have dry := passed_toggle passed .dryRun (by decide)
    unfold Toggle.name at failed dry
    simp only [Options.ofEnvironment,Options.names_exact,dry,failed]
    rfl
  | propagateExitCode =>
    have dry := passed_toggle passed .dryRun (by decide)
    have bare := passed_toggle passed .noShell (by decide)
    unfold Toggle.name at failed dry bare
    simp only [Options.ofEnvironment,Options.names_exact,dry,bare,failed]
    rfl

-- The first check that fails stops a run before its launch or in it.
theorem first_unprepared {check : Check} {fault : Fault} (first : First setup argv host check fault)
    (early : check.rank < Check.userSettings.rank) :
    prepare (argv.drop 1) host = .error fault := by
  obtain ⟨fails,passed⟩ := first
  cases fails with
  | arguments wrong => simp only [prepare,singleArgument_wrong wrong]
  | toggle set neither =>
    rename_i which
    have later : 0 < (Check.toggle which).rank := by cases which <;> decide
    obtain ⟨filename,single⟩ := passed_arguments passed later
    simp only [prepare,single,singleArgument,first_toggle passed set neither]
  | directory lost =>
    obtain ⟨filename,single⟩ := passed_arguments passed (by decide)
    have read := passed_options passed (Nat.le_refl _)
    simp only [prepare,single,singleArgument,read,lost]
  | level set unknown =>
    obtain ⟨filename,single⟩ := passed_arguments passed (by decide)
    obtain ⟨workDir,here⟩ := passed_directory passed (by decide)
    have read := passed_options passed (by decide)
    have refused : Log.Level.check (chosen host).logLevel = .error _ := level_unknown set unknown
    simp only [prepare,single,singleArgument,read,here,refused]
    rfl
  | userSettings | missing | projectSettings | mode | unsplit | wordless | envFile =>
    exact absurd early (by decide)

theorem started_settings {workDir : Bytes} (beside : LogBeside setup argv host)
    (passed : Passed setup argv host Check.userSettings.rank)
    (here : host.workingDirectory = .ok workDir) :
    (around setup (chosen host) workDir host).settings (started setup (chosen host) workDir host) =
      Settings.load setup.decoders (sources (chosen host) workDir host) host := by
  obtain ⟨again,there,prepared⟩ := passed_prepared passed (Nat.le_refl _)
  cases here.symm.trans there
  exact Settings.load_congr fun path listed =>
    (started_confined beside.sound setup (chosen host) workDir).read
      (beside.beside path (.settings prepared listed))

-- Faults of loading belong to the two checks of files with settings.
theorem load_fails {workDir : Bytes} (here : host.workingDirectory = .ok workDir) {fault : Fault}
    (failed : Settings.load setup.decoders (sources (chosen host) workDir host) host = .error fault) :
    ∃ check, check.rank < Check.mode.rank ∧
      Fails setup argv host check (.context (text "load config: ") fault) := by
  cases Settings.load_exact.mp failed with
  | globalFault global => exact ⟨_,by decide,.userSettings here global⟩
  | explicitMissing global named lacks => exact ⟨_,by decide,.missing here named lacks⟩
  | projectFault global project => exact ⟨_,by decide,.projectSettings here project⟩

theorem passed_user {workDir : Bytes} (passed : Passed setup argv host rank)
    (late : Check.userSettings.rank < rank) (here : host.workingDirectory = .ok workDir) :
    ∃ below, Settings.Gives setup.decoders host
      (Settings.globalFile (sources (chosen host) workDir host) host) (.ok below) := by
  obtain ⟨result,gives⟩ :=
    Settings.globalFile_gives setup.decoders (sources (chosen host) workDir host) host
  cases result with
  | error fault => exact absurd (passed _ _ (.userSettings here gives)) (Nat.not_le_of_lt late)
  | ok below => exact ⟨below,gives⟩

theorem passed_loaded {workDir : Bytes} (passed : Passed setup argv host rank)
    (late : Check.mode.rank ≤ rank) (here : host.workingDirectory = .ok workDir) :
    ∃ settings, Finds setup host workDir settings := by
  cases loaded : Settings.load setup.decoders (sources (chosen host) workDir host) host with
  | error fault =>
    obtain ⟨check,before,fails⟩ := load_fails here loaded
    exact absurd (passed _ _ fails) (Nat.not_le_of_lt (Nat.lt_of_lt_of_le before late))
  | ok settings => exact ⟨settings,here,loaded⟩

theorem first_unloaded {workDir : Bytes} {check : Check} {fault : Fault}
    (first : First setup argv host check fault) (late : Check.userSettings.rank ≤ check.rank)
    (early : check.rank < Check.mode.rank) (here : host.workingDirectory = .ok workDir) :
    ∃ inner, fault = .context (text "load config: ") inner ∧
      Settings.load setup.decoders (sources (chosen host) workDir host) host = .error inner := by
  obtain ⟨fails,passed⟩ := first
  cases fails with
  | userSettings again user =>
    cases here.symm.trans again
    exact ⟨_,rfl,Settings.load_complete (.globalFault user)⟩
  | missing again named lacks =>
    obtain ⟨below,user⟩ := passed_user passed (by decide) here
    exact ⟨_,rfl,Settings.load_complete (.explicitMissing user named lacks)⟩
  | projectSettings again project =>
    cases here.symm.trans again
    obtain ⟨below,user⟩ := passed_user passed (by decide) here
    exact ⟨_,rfl,Settings.load_complete (.projectFault user project)⟩
  | arguments | directory | level => exact absurd late (by decide)
  | toggle =>
    rename_i which _ _
    exact absurd late (by cases which <;> decide)
  | mode | unsplit | wordless | envFile => exact absurd early (by decide)

-- What the launch makes of settings and switches.

theorem effective_bare {settings : Settings} (args : List Bytes) (bare : Bare host settings) :
    (effective settings (request (chosen host) args)).mode = Mode.exec.name := by
  rcases bare with on | exec
  · have asked : (request (chosen host) args).noShell = true := by simp [request,chosen,on]
    simp [effective,asked]
  · simp [effective,exec]

theorem effective_shell {settings : Settings} (args : List Bytes)
    (shell : ¬Toggle.noShell.On host) :
    (effective settings (request (chosen host) args)).mode = settings.launcher.mode := by
  have unasked : (request (chosen host) args).noShell = false := by simp [request,chosen,shell]
  simp [effective,unasked]

theorem effective_check {workDir : Bytes} {settings : Settings}
    (finds : Finds setup host workDir settings) (args : List Bytes) :
    (effective settings (request (chosen host) args)).check =
      match Mode.ofName? (effective settings (request (chosen host) args)).mode with
      | some mode => .ok mode
      | none => .error (LauncherSettings.unknownMode
          (effective settings (request (chosen host) args)).mode) := by
  obtain ⟨interpreter,script⟩ := Settings.load_named finds.loaded
  exact LauncherSettings.check_named interpreter script

theorem passed_checked {workDir : Bytes} {settings : Settings}
    (passed : Passed setup argv host rank) (late : Check.mode.rank < rank)
    (finds : Finds setup host workDir settings) (args : List Bytes) :
    ∃ mode, (effective settings (request (chosen host) args)).check = .ok mode := by
  rw [effective_check finds]
  by_cases on : Toggle.noShell.On host
  · rw [effective_bare args (.inl on)]
    exact ⟨.exec,rfl⟩
  · rw [effective_shell args on]
    cases known : Mode.ofName? settings.launcher.mode with
    | none => exact absurd (passed _ _ (.mode finds on known)) (Nat.not_le_of_lt late)
    | some mode => exact ⟨mode,rfl⟩

theorem bare_checked {settings : Settings} {args : List Bytes}
    (checked : (effective settings (request (chosen host) args)).check = .ok .exec) :
    Bare host settings := by
  have named := LauncherSettings.check_mode checked
  by_cases on : Toggle.noShell.On host
  · exact .inl on
  · rw [effective_shell args on] at named
    exact .inr named

theorem passed_planned {workDir : Bytes} {settings : Settings} {mode : Mode} {args : List Bytes}
    (passed : Passed setup argv host rank) (late : Check.interpreter.rank < rank)
    (finds : Finds setup host workDir settings)
    (checked : (effective settings (request (chosen host) args)).check = .ok mode)
    (script : Script) (filename : Bytes) :
    ∃ inv, plan (around setup (chosen host) workDir host)
      (effective settings (request (chosen host) args)) mode script filename = .ok inv := by
  cases mode with
  | shell => exact ⟨_,rfl⟩
  | exec =>
    have bare := bare_checked checked
    cases words : LineRules.standard.split settings.launcher.interpreter with
    | error fault =>
      exact absurd (passed _ _ (.unsplit finds bare words)) (Nat.not_le_of_lt late)
    | ok front =>
      cases front with
      | nil => exact absurd (passed _ _ (.wordless finds bare words)) (Nat.not_le_of_lt late)
      | cons program rest =>
        have named : (around setup (chosen host) workDir host).rules.split
            (effective settings (request (chosen host) args)).interpreter =
              .ok (program :: rest) := words
        obtain ⟨inv,decided,-⟩ := plan_exec named (by simp) script filename
        exact ⟨inv,decided⟩

-- How a run that has passed its checks can still be stopped, before anything is known of when.
inductive Stops (setup : Setup) (argv : List Bytes) (host : Host) (fault : Fault) : Prop where
  | unprepared (failed : prepare (argv.drop 1) host = .error fault) : Stops setup argv host fault
  | launched (prepared : prepare (argv.drop 1) host = .ok (options,workDir))
      (failed : (execute (around setup options workDir host) (request options (argv.drop 1))
        (started setup options workDir host)).1 = .error fault) : Stops setup argv host fault

-- From here on the launch itself.

theorem ready_late {workDir filename : Bytes} {settings : Settings} {mode : Mode}
    (beside : LogBeside setup argv host)
    (passed : Passed setup argv host Check.userSettings.rank) (single : argv.drop 1 = [filename])
    (finds : Finds setup host workDir settings)
    (checked : (effective settings (request (chosen host) (argv.drop 1))).check = .ok mode) :
    Ready (around setup (chosen host) workDir host) (request (chosen host) (argv.drop 1))
      (started setup (chosen host) workDir host) filename settings mode :=
  ⟨single,(started_settings beside passed finds.here).trans finds.loaded,checked⟩

theorem Passed.weaken {less : Nat} (passed : Passed setup argv host rank) (lower : less ≤ rank) :
    Passed setup argv host less :=
  fun check fault fails => Nat.le_trans lower (passed check fault fails)

theorem request_real (args : List Bytes) :
    (request (chosen host) args).dryRun = false ↔ ¬Toggle.dryRun.On host := by
  simp [request,chosen]

-- The variables are read from the file as it was when the run began.
theorem vars_before {workDir filename : Bytes} {settings : Settings} {mode : Mode} {inv : Invocation}
    (beside : LogBeside setup argv host) (passed : Passed setup argv host Check.userSettings.rank)
    (finds : Finds setup host workDir settings)
    (checked : (effective settings (request (chosen host) (argv.drop 1))).check = .ok mode)
    (decided : planned (around setup (chosen host) workDir host) (request (chosen host) (argv.drop 1))
      (started setup (chosen host) workDir host) filename settings mode = .ok inv)
    (real : ¬Toggle.dryRun.On host) (named : settings.launcher.envFile ≠ []) :
    (around setup (chosen host) workDir host).vars
        (located (around setup (chosen host) workDir host) (request (chosen host) (argv.drop 1))
          (started setup (chosen host) workDir host) settings).2.state
        (envPath workDir settings.launcher.envFile) =
      Dotenv.load host (envPath workDir settings.launcher.envFile) := by
  obtain ⟨again,there,prepared⟩ := passed_prepared passed (Nat.le_refl _)
  cases finds.here.symm.trans there
  have consults : Consults setup argv host (envPath workDir settings.launcher.envFile) :=
    .envFile ⟨prepared,finds.loaded,checked⟩ decided ((request_real (argv.drop 1)).mpr real) named
  exact Dotenv.load_congr ((located_confined beside.sound setup (chosen host) workDir
    (request (chosen host) (argv.drop 1)) settings).read (beside.beside _ consults))

theorem bare_ready {workDir filename : Bytes} {settings : Settings}
    (beside : LogBeside setup argv host) (passed : Passed setup argv host Check.interpreter.rank)
    (single : argv.drop 1 = [filename]) (finds : Finds setup host workDir settings)
    (bare : Bare host settings) :
    Ready (around setup (chosen host) workDir host) (request (chosen host) (argv.drop 1))
      (started setup (chosen host) workDir host) filename settings .exec := by
  obtain ⟨mode,checked⟩ := passed_checked passed (by decide) finds (argv.drop 1)
  have named := (effective_bare (argv.drop 1) bare).symm.trans (LauncherSettings.check_mode checked)
  cases mode with
  | shell => exact absurd named (by decide)
  | exec => exact ready_late beside (passed.weaken (by decide)) single finds checked

theorem first_launched {workDir filename : Bytes} {check : Check} {fault : Fault}
    (beside : LogBeside setup argv host) (first : First setup argv host check fault)
    (late : Check.mode.rank ≤ check.rank) (single : argv.drop 1 = [filename])
    (here : host.workingDirectory = .ok workDir) :
    (execute (around setup (chosen host) workDir host) (request (chosen host) (argv.drop 1))
      (started setup (chosen host) workDir host)).1 = .error fault := by
  obtain ⟨fails,passed⟩ := first
  cases fails with
  | mode finds shell unknown =>
    cases here.symm.trans finds.here
    have loaded := (started_settings beside (passed.weaken (by decide)) here).trans finds.loaded
    have refused := effective_check finds (argv.drop 1)
    rw [effective_shell (argv.drop 1) shell,unknown] at refused
    rw [execute_complete (.rejected single loaded refused)]
  | unsplit finds bare open_ =>
    cases here.symm.trans finds.here
    have ready := bare_ready beside passed single finds bare
    refine (ready_fails ready _).mpr (.inl fun script => ?_)
    have read : (around setup (chosen host) workDir host).rules.split
        (effective _ (request (chosen host) (argv.drop 1))).interpreter = .error _ := open_
    simp only [plan,execWords,read]
    rfl
  | wordless finds bare none_ =>
    cases here.symm.trans finds.here
    have ready := bare_ready beside passed single finds bare
    refine (ready_fails ready _).mpr (.inl fun script => ?_)
    have read : (around setup (chosen host) workDir host).rules.split
        (effective _ (request (chosen host) (argv.drop 1))).interpreter = .ok [] := none_
    simp only [plan,execWords,read]
    rfl
  | envFile finds real named lost =>
    cases here.symm.trans finds.here
    obtain ⟨mode,checked⟩ := passed_checked passed (by decide) finds (argv.drop 1)
    have ready := ready_late beside (passed.weaken (by decide)) single finds checked
    obtain ⟨inv,decided⟩ := passed_planned passed (by decide) finds checked
      (located (around setup (chosen host) workDir host) (request (chosen host) (argv.drop 1))
        (started setup (chosen host) workDir host) _).1 filename
    have unread := (vars_before beside (passed.weaken (by decide)) finds checked decided real
      named).trans lost
    exact (ready_fails ready _).mpr
      (.inr ⟨(request_real _).mpr real,.intro ready decided named unread⟩)
  | arguments | directory | level | userSettings | missing | projectSettings =>
    exact absurd late (by decide)
  | toggle =>
    rename_i which _ _
    exact absurd late (by cases which <;> decide)

theorem first_stops {check : Check} {fault : Fault} (beside : LogBeside setup argv host)
    (first : First setup argv host check fault) : Stops setup argv host fault := by
  by_cases early : check.rank < Check.userSettings.rank
  · exact .unprepared (first_unprepared first early)
  · have late := Nat.le_of_not_lt early
    obtain ⟨filename,single⟩ := passed_arguments first.passed (Nat.lt_of_lt_of_le (by decide) late)
    obtain ⟨workDir,here,prepared⟩ := passed_prepared first.passed late
    refine .launched prepared ?_
    by_cases files : check.rank < Check.mode.rank
    · obtain ⟨inner,rfl,failed⟩ := first_unloaded first late files here
      have lost := (started_settings beside (first.passed.weaken late) here).trans failed
      rw [execute_complete (.unloaded single lost)]
    · exact first_launched beside first (Nat.le_of_not_lt files) single here

-- A run for which no check fails gets to its preview or its command.
theorem sound_runs (beside : LogBeside setup argv host)
    (sound : ∀ check fault, ¬Fails setup argv host check fault) (fault : Fault) :
    ¬Stops setup argv host fault := by
  have passed (rank : Nat) : Passed setup argv host rank := fun check fault fails =>
    (sound check fault fails).elim
  obtain ⟨filename,single⟩ := passed_arguments (passed 1) Nat.zero_lt_one
  obtain ⟨workDir,here,prepared⟩ := passed_prepared (passed _) (Nat.le_refl _)
  obtain ⟨settings,finds⟩ := passed_loaded (passed _) (Nat.le_refl _) here
  obtain ⟨mode,checked⟩ := passed_checked (passed _) (Nat.lt_succ_self _) finds (argv.drop 1)
  have ready := ready_late beside (passed _) single finds checked
  rintro (failed | ⟨again,failed⟩)
  · rw [prepared] at failed
    cases failed
  · cases prepared.symm.trans again
    rcases (ready_fails ready fault).mp failed with unplanned | ⟨real,stranded⟩
    · obtain ⟨inv,decided⟩ := passed_planned (passed _) (Nat.lt_succ_self _) finds checked
        ⟨[],false⟩ filename
      rw [unplanned] at decided
      cases decided
    · obtain ⟨other,decided,named,unread⟩ := stranded
      obtain ⟨rfl,rfl,rfl⟩ := ready.unique other
      have wet := (request_real (argv.drop 1)).mp real
      exact sound _ _ (.envFile finds wet named
        ((vars_before beside (passed _) finds checked decided wet named).symm.trans unread))

end

end Program

end ScriptLauncher
