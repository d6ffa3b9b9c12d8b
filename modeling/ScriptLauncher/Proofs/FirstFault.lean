import ScriptLauncher.Proofs.Checks

namespace ScriptLauncher.Program
open Launch

-- What is seen of a run that fails: code 1, no command, and either the usage line or one line for the
-- fault, after the warnings of settings that could be loaded.
inductive Reports (setup : Setup) (argv : List Bytes) (fault : Fault) : Outcome → Prop where
  | usage (misuse : fault.isUsage = true) (after : Host) : Reports setup argv fault
      { ending := ⟨1,usageText (argv.headD (text "orion")),[]⟩
        commands := [],host := after,childOutput := [],childErrors := [] }
  | printed (other : fault.isUsage = false) (shown : List Bytes) (after : Host) :
      Reports setup argv fault
      { ending := ⟨1,[],shown.flatMap warningText ++ faultText setup.colored fault.message⟩
        commands := [],host := after,childOutput := [],childErrors := [] }

section

variable {setup : Setup} {argv : List Bytes} {host : Host} {fault : Fault}

theorem Reports.failed {o : Outcome} (reports : Reports setup argv fault o) :
    o.commands = [] ∧ o.ending.code = 1 := by
  cases reports <;> exact ⟨rfl,rfl⟩

theorem unprepared_reports (failed : prepare (argv.drop 1) host = .error fault) :
    Reports setup argv fault (run setup argv host) := by
  rw [run_concluded (perform_failed setup failed)]
  by_cases single : (argv.drop 1).length = 1
  · have plain := prepare_plain single failed
    have seen : Reports setup argv fault _ := .printed plain.not_usage [] host
    simpa [concluded,ending_plain plain,idle,outputs,warnings,commands] using seen
  · obtain ⟨other,misused,usage⟩ := prepare_misused single host
    cases misused.symm.trans failed
    have seen : Reports setup argv fault _ := .usage usage host
    simpa [concluded,ending_usage usage,idle,outputs,warnings,commands] using seen

theorem Fits.reports (fits : Fits setup argv host .fault (run setup argv host))
    (performed : (perform setup (marker :: argv.drop 1) host).1 = some fault)
    (plain : fault.Plain) : Reports setup argv fault (run setup argv host) := by
  obtain ⟨other,shown,after,same,-,seen⟩ := fits
  cases performed.symm.trans same
  rw [seen]
  exact .printed plain.not_usage shown after

theorem course_reports {filename workDir : Bytes} {options : Options} {p : Progress Machine}
    (single : argv.drop 1 = [filename])
    (prepared : prepare (argv.drop 1) host = .ok (options,workDir))
    (course : Course (around setup options workDir host) (request options (argv.drop 1))
      (started setup options workDir host) (.error fault) p) :
    Reports setup argv fault (run setup argv host) := by
  have performed := congrArg Prod.fst
    ((perform_launched setup prepared).trans (launch_failed course))
  have plain : fault.Plain := by
    rw [single] at course
    exact launch_plain course
  exact (failed_fits single prepared course).reports performed plain

theorem stops_reports (stops : Stops setup argv host fault) :
    Reports setup argv fault (run setup argv host) := by
  cases stops with
  | unprepared failed => exact unprepared_reports failed
  | launched prepared failed =>
    obtain ⟨filename,single,-⟩ := prepare_exact.mp prepared
    exact course_reports single prepared (execute_exact.mp (Prod.ext failed rfl))

-- A run that does not stop shows something else.
theorem reports_stops (reports : Reports setup argv fault (run setup argv host)) :
    ∃ other, Stops setup argv host other := by
  cases prepared : prepare (argv.drop 1) host with
  | error other => exact ⟨other,.unprepared prepared⟩
  | ok found =>
    obtain ⟨options,workDir⟩ := found
    obtain ⟨result,p,course⟩ := course_exists (around setup options workDir host)
      (request options (argv.drop 1)) (started setup options workDir host)
    have ran := execute_complete course
    cases result with
    | error other => exact ⟨other,.launched prepared (by rw [ran])⟩
    | ok report =>
      obtain ⟨carried,ended⟩ := run_ending prepared ran
      have failed := reports.failed
      rw [carried,ended] at failed
      cases course with
      | previewed ready decided dry => cases failed.2
      | dispatched ready decided real given =>
        rw [(account_dispatched given _).commands] at failed
        cases failed.1

end

-- What a check looks at, besides what the checks before it have looked at, is the same for another
-- run. Mode and interpreter stand in settings that have been loaded by then.
def Sees (setup : Setup) (argv : List Bytes) (host : Host) (otherArgv : List Bytes) (other : Host) :
    Check → Prop
  | .arguments => (otherArgv.drop 1).length = (argv.drop 1).length ∧
      otherArgv.headD (text "orion") = argv.headD (text "orion")
  | .toggle which => other.getenv which.name = host.getenv which.name
  | .directory => other.workingDirectory = host.workingDirectory
  | .level => other.getenv Variable.logLevel = host.getenv Variable.logLevel
  | .userSettings => Settings.defaultGlobalDir other = Settings.defaultGlobalDir host ∧
      ∀ workDir, ∀ path ∈ Settings.userReads (sources (chosen host) workDir host),
        other.read path = host.read path
  | .projectSettings => other.getenv Variable.config = host.getenv Variable.config ∧
      ∀ workDir, host.workingDirectory = .ok workDir →
        ∀ path ∈ Settings.projectReads (sources (chosen host) workDir host) host,
          other.read path = host.read path
  | .mode | .interpreter => True
  | .envFile => ∀ workDir settings, Finds setup host workDir settings →
      other.read (envPath workDir settings.launcher.envFile) =
        host.read (envPath workDir settings.launcher.envFile)

-- Two runs for which everything comes to the same that checks up to a rank look at.
structure Agrees (setup : Setup) (rank : Nat) (argv : List Bytes) (host : Host)
    (otherArgv : List Bytes) (other : Host) : Prop where
  arguments : (otherArgv.drop 1).length = (argv.drop 1).length
  toggle : ∀ which, (Check.toggle which).rank ≤ rank →
    other.getenv which.name = host.getenv which.name
  directory : Check.directory.rank ≤ rank → other.workingDirectory = host.workingDirectory
  level : Check.level.rank ≤ rank →
    other.getenv Variable.logLevel = host.getenv Variable.logLevel
  user : Check.userSettings.rank ≤ rank → ∀ workDir,
    Settings.loadGlobal setup.decoders (sources (chosen other) workDir other) other =
      Settings.loadGlobal setup.decoders (sources (chosen host) workDir host) host
  config : Check.projectSettings.rank ≤ rank →
    other.getenv Variable.config = host.getenv Variable.config
  project : Check.projectSettings.rank ≤ rank → ∀ workDir, host.workingDirectory = .ok workDir →
    Settings.loadProject setup.decoders (sources (chosen other) workDir other) other =
      Settings.loadProject setup.decoders (sources (chosen host) workDir host) host
  envFile : Check.envFile.rank ≤ rank → ∀ workDir settings, Finds setup host workDir settings →
    Dotenv.load other (envPath workDir settings.launcher.envFile) =
      Dotenv.load host (envPath workDir settings.launcher.envFile)

section

variable {setup : Setup} {rank : Nat} {argv otherArgv : List Bytes} {host other : Host}

theorem sees_agrees (sees : ∀ check, check.rank ≤ rank → Sees setup argv host otherArgv other check) :
    Agrees setup rank argv host otherArgv other := by
  refine ⟨(sees .arguments (Nat.zero_le _)).1,fun which => sees (.toggle which),sees .directory,
    sees .level,?_,fun late => (sees .projectSettings late).1,?_,?_⟩
  · intro late workDir
    obtain ⟨dir,same⟩ := sees .userSettings late
    rw [← Settings.loadGlobal_congr (same workDir)]
    simp only [Settings.loadGlobal,sources,dir]
    rfl
  · intro late workDir here
    obtain ⟨config,same⟩ := sees .projectSettings late
    rw [← Settings.loadProject_congr (same workDir here)]
    simp only [Settings.loadProject,sources,chosen,config]
    rfl
  · intro late workDir settings finds
    exact Dotenv.load_congr (sees .envFile late workDir settings finds)

theorem Agrees.loads (agrees : Agrees setup rank argv host otherArgv other)
    (late : Check.projectSettings.rank ≤ rank) {workDir : Bytes}
    (here : host.workingDirectory = .ok workDir) :
    Settings.load setup.decoders (sources (chosen other) workDir other) other =
      Settings.load setup.decoders (sources (chosen host) workDir host) host := by
  rw [Settings.load,Settings.load,agrees.user (Nat.le_trans (by decide) late),
    agrees.project late workDir here]

theorem Agrees.finds (agrees : Agrees setup rank argv host otherArgv other)
    (late : Check.projectSettings.rank ≤ rank) {workDir : Bytes} {settings : Settings} :
    Finds setup other workDir settings ↔ Finds setup host workDir settings := by
  have directory := agrees.directory (Nat.le_trans (by decide) late)
  constructor
  · intro ⟨here,loaded⟩
    rw [directory] at here
    exact ⟨here,(agrees.loads late here).symm.trans loaded⟩
  · intro ⟨here,loaded⟩
    exact ⟨directory.trans here,(agrees.loads late here).trans loaded⟩

theorem Agrees.symm (agrees : Agrees setup rank argv host otherArgv other) :
    Agrees setup rank otherArgv other argv host where
  arguments := agrees.arguments.symm
  toggle which late := (agrees.toggle which late).symm
  directory late := (agrees.directory late).symm
  level late := (agrees.level late).symm
  user late workDir := (agrees.user late workDir).symm
  config late := (agrees.config late).symm
  project late workDir here :=
    (agrees.project late workDir ((agrees.directory (Nat.le_trans (by decide) late)).symm.trans
      here)).symm
  envFile late workDir settings finds :=
    (agrees.envFile late workDir settings
      ((agrees.finds (Nat.le_trans (by decide) late)).mp finds)).symm

-- A fault of the project's settings, seen through their loading.
theorem projectSettings_exact {fault : Fault} : Fails setup argv host .projectSettings fault ↔
    ∃ workDir inner, host.workingDirectory = .ok workDir ∧
      fault = .context (text "load config: ") inner ∧
      Settings.optional (Settings.loadProject setup.decoders
        (sources (chosen host) workDir host) host) = .error inner := by
  constructor
  · intro fails
    cases fails with
    | missing here named lacks =>
      exact ⟨_,_,here,rfl,Settings.projectFault_exact.mp (.inl ⟨named,lacks,rfl⟩)⟩
    | projectSettings here project =>
      exact ⟨_,_,here,rfl,Settings.projectFault_exact.mp (.inr project)⟩
  · rintro ⟨workDir,inner,here,rfl,failed⟩
    rcases Settings.projectFault_exact.mpr failed with ⟨named,lacks,rfl⟩ | project
    · exact .missing here named lacks
    · exact .projectSettings here project

theorem Agrees.fails_project {fault : Fault}
    (agrees : Agrees setup rank argv host otherArgv other)
    (late : Check.projectSettings.rank ≤ rank)
    (fails : Fails setup argv host .projectSettings fault) :
    Fails setup otherArgv other .projectSettings fault := by
  obtain ⟨workDir,inner,here,rfl,failed⟩ := projectSettings_exact.mp fails
  have directory := agrees.directory (Nat.le_trans (by decide) late)
  refine projectSettings_exact.mpr ⟨workDir,inner,directory.trans here,rfl,?_⟩
  rw [agrees.project late workDir here]
  exact failed

theorem Agrees.on (agrees : Agrees setup rank argv host otherArgv other) {which : Toggle}
    (late : (Check.toggle which).rank ≤ rank) : which.On other ↔ which.On host := by
  unfold Toggle.On
  rw [agrees.toggle which late]

theorem Agrees.bare (agrees : Agrees setup rank argv host otherArgv other)
    (late : Check.interpreter.rank ≤ rank) {settings : Settings} (bare : Bare host settings) :
    Bare other settings :=
  bare.imp_left (agrees.on (Nat.le_trans (by decide) late)).mpr

theorem Agrees.fails {check : Check} (agrees : Agrees setup rank argv host otherArgv other)
    (late : check.rank ≤ rank) {fault : Fault} (fails : Fails setup argv host check fault) :
    Fails setup otherArgv other check fault := by
  cases fails with
  | arguments wrong =>
    rw [← agrees.arguments] at wrong ⊢
    exact .arguments wrong
  | toggle set neither =>
    rw [← agrees.toggle _ late] at set neither ⊢
    exact .toggle set neither
  | directory lost => exact .directory ((agrees.directory late).trans lost)
  | level set unknown =>
    rw [← agrees.level late] at set unknown ⊢
    exact .level set unknown
  | userSettings here user =>
    have directory := agrees.directory (Nat.le_trans (by decide) late)
    refine .userSettings (directory.trans here) (Settings.userFault_exact.mpr ?_)
    rw [agrees.user late]
    exact Settings.userFault_exact.mp user
  | missing here named lacks => exact agrees.fails_project late (.missing here named lacks)
  | projectSettings here project =>
    exact agrees.fails_project late (.projectSettings here project)
  | mode finds shell unknown =>
    have found := (agrees.finds (Nat.le_trans (by decide) late)).mpr finds
    refine .mode found (fun on => shell ?_) unknown
    exact (agrees.on (Nat.le_trans (by decide) late)).mp on
  | unsplit finds bare open_ =>
    have found := (agrees.finds (Nat.le_trans (by decide) late)).mpr finds
    exact .unsplit found (agrees.bare late bare) open_
  | wordless finds bare none_ =>
    have found := (agrees.finds (Nat.le_trans (by decide) late)).mpr finds
    exact .wordless found (agrees.bare late bare) none_
  | envFile finds real named lost =>
    have found := (agrees.finds (Nat.le_trans (by decide) late)).mpr finds
    refine .envFile found (fun on => real ?_) named ((agrees.envFile late _ _ finds).trans lost)
    exact (agrees.on (Nat.le_trans (by decide) late)).mp on

theorem Agrees.first {check : Check} {fault : Fault}
    (agrees : Agrees setup check.rank argv host otherArgv other)
    (first : First setup argv host check fault) : First setup otherArgv other check fault := by
  refine ⟨agrees.fails (Nat.le_refl _) first.fails,fun earlier told fails => ?_⟩
  refine Nat.le_of_not_lt fun before => ?_
  have back := agrees.symm.fails (Nat.le_of_lt before) fails
  exact absurd (first.passed earlier told back) (Nat.not_le_of_lt before)

end

-- A program's name is shown only in the usage line.
theorem Reports.named {setup : Setup} {argv otherArgv : List Bytes} {fault : Fault} {o : Outcome}
    (same : otherArgv.headD (text "orion") = argv.headD (text "orion"))
    (reports : Reports setup otherArgv fault o) : Reports setup argv fault o := by
  cases reports with
  | usage misuse after =>
    rw [same]
    exact .usage misuse after
  | printed other shown after => exact .printed other shown after

-- A run fails exactly if a check fails, and then it reports the first one in the order of the checks,
-- whatever else would fail, without a command. What only later checks look at makes no difference:
-- another run, for which everything is the same that the checks up to this one look at, ends with the
-- same code, the same output and the same line for the fault.
theorem first_failing_check_decides {setup : Setup} {argv : List Bytes} {host : Host}
    (beside : LogBeside setup argv host) :
    ((∃ fault, Reports setup argv fault (run setup argv host)) ↔
      ∃ check fault, First setup argv host check fault) ∧
    ∀ check fault, First setup argv host check fault →
      Reports setup argv fault (run setup argv host) ∧
      ∀ otherArgv other, LogBeside setup otherArgv other →
        (∀ earlier, earlier.rank ≤ check.rank → Sees setup argv host otherArgv other earlier) →
        Reports setup argv fault (run setup otherArgv other) := by
  have reported {argv : List Bytes} {host : Host} (beside : LogBeside setup argv host)
      {check : Check} {fault : Fault} (first : First setup argv host check fault) :
      Reports setup argv fault (run setup argv host) := stops_reports (first_stops beside first)
  refine ⟨⟨?_,?_⟩,fun check fault first => ⟨reported beside first,?_⟩⟩
  · rintro ⟨fault,reports⟩
    obtain ⟨other,stops⟩ := reports_stops reports
    refine first_exists (Classical.byContradiction fun sound => ?_)
    refine sound_runs beside (fun check told fails => ?_) other stops
    exact sound ⟨check,told,fails⟩
  · rintro ⟨check,fault,first⟩
    exact ⟨fault,reported beside first⟩
  · intro otherArgv other elsewhere sees
    have again := (sees_agrees sees).first first
    exact (reported elsewhere again).named (sees .arguments (Nat.zero_le _)).2

-- A log beside the one file with settings that a run reads before it fails for its interpreter.
theorem unsplit_beside {setup : Setup} {argv : List Bytes} {host : Host} {workDir file : Bytes}
    {settings : Settings} {fault : Fault} (sound : host.files.Sound)
    (prepared : prepare (argv.drop 1) host = .ok (chosen host,workDir))
    (finds : Finds setup host workDir settings) (bare : Bare host settings)
    (open_ : LineRules.standard.split settings.launcher.interpreter = .error fault)
    (only : Settings.reads setup.decoders (sources (chosen host) workDir host) host = [file])
    (beside : host.Beside (Log.path (Log.defaultStateDir host)) file) :
    LogBeside setup argv host := by
  refine ⟨sound,fun path consults on => ?_⟩
  cases consults with
  | settings again listed =>
    cases prepared.symm.trans again
    rw [only,List.mem_singleton] at listed
    exact listed ▸ beside
  | envFile enters decided real named =>
    obtain ⟨again,loaded,checked⟩ := enters
    cases prepared.symm.trans again
    cases finds.loaded.symm.trans loaded
    have exec := (effective_bare (argv.drop 1) bare).symm.trans
      (LauncherSettings.check_mode checked)
    cases plan_shows decided with
    | line => exact absurd exec (by decide)
    | words split_ some_ => cases open_.symm.trans split_

-- Settings whose mode is none and whose interpreter has an open quote, and which name a file of
-- variables. No shell is asked for, so the mode does not count.
def quotedSetup : Setup where
  decoders := ⟨fun _ => .ok [(Settings.launcherSection,.table
    [(text "mode",.text (text "none")),(text "interpreter",.text (text "py 'x")),
      (text "env_file",.text (text ".env"))])],fun _ => .error []⟩
  execute _ host := { result := none,host }
  clock := ⟨2025,12,30,9,32,51⟩
  runId := text "run"

def quotedHost : Host :=
  { (Host.put ⟨.empty,none,[]⟩ (text "/w/c.toml") [] 0o644).changeDirectory (text "/w") with
    vars := [(Variable.config,text "c.toml"),(Variable.noShell,text "1"),
      (text "XDG_STATE_HOME",text "/s")] }

-- The same with the file of variables, which the other one lacks.
def equippedHost : Host := quotedHost.put (text ".env") (text "A=1") 0o600

theorem quotedHost_sound : quotedHost.Sound :=
  ⟨((Host.bare_sound.put ..).changeDirectory _).files,
    ((Host.bare_sound.put ..).changeDirectory _).standing⟩

def quotedArgs : List Bytes := [text "orion",text "x"]

theorem quoted_first : ∃ inner, First quotedSetup quotedArgs quotedHost .interpreter
    (.context (text "parse interpreter: ") inner) := by
  have here : quotedHost.workingDirectory = .ok (text "/w") := by rfl
  refine ⟨_,.unsplit ⟨here,by rfl⟩ (.inl (by decide)) (by rfl),fun check fault fails => ?_⟩
  cases fails with
  | arguments wrong => exact (wrong rfl).elim
  | toggle set neither =>
    rename_i which
    cases which with
    | dryRun | propagateExitCode => exact (set (by rfl)).elim
    | noShell => exact absurd neither (by decide)
  | directory lost =>
    rw [here] at lost
    cases lost
  | level set unknown => exact (set (by rfl)).elim
  | userSettings there user =>
    cases here.symm.trans there
    cases user
  | missing there named lacks => exact absurd lacks (by decide)
  | projectSettings there project =>
    cases here.symm.trans there
    cases Settings.projectFault_exact.mp (.inr project)
  | mode finds shell unknown => exact (shell (by decide)).elim
  | unsplit finds bare open_ | wordless finds bare none_ | envFile finds real named lost => decide

-- The log is to be made in a directory of its own, beside a file that is there.
theorem quoted_beside {host : Host} (sound : host.files.Sound)
    (prepared : prepare (quotedArgs.drop 1) host = .ok (chosen host,text "/w"))
    {settings : Settings} (finds : Finds quotedSetup host (text "/w") settings)
    (bare : Bare host settings) {fault : Fault}
    (open_ : LineRules.standard.split settings.launcher.interpreter = .error fault)
    (only : Settings.reads quotedSetup.decoders (sources (chosen host) (text "/w") host) host =
      [Path.join [[],text "c.toml"]])
    {f : File} (there : host.stat (Path.join [[],text "c.toml"]) = .ok (.file f))
    (log : host.place (Log.path (Log.defaultStateDir host)) =
      [text "s",text "orion",text "logs",text "orion.log"])
    (missing : host.files.get? [text "s",text "orion",text "logs",text "orion.log"] = none)
    (file : host.place (Path.join [[],text "c.toml"]) = [text "w",text "c.toml"]) :
    LogBeside quotedSetup quotedArgs host := by
  have name : Path.Name (text "c.toml") := ⟨by decide,by decide,by decide,by decide⟩
  obtain ⟨base,inner,descends,-⟩ :=
    FileSystem.join_descends host.cwd [] (List.forall_mem_nil _) name
  refine unsplit_beside sound prepared finds bare open_ only (.found sound descends there ?_ ?_)
  · rw [log,file]
    decide
  · rw [log,file]
    rintro (same | ⟨f,g,-,lost,-⟩)
    · exact absurd same (by decide)
    · rw [missing] at lost
      cases lost

theorem open_quote_decides_before_variables : ∃ inner,
    Reports quotedSetup quotedArgs (.context (text "parse interpreter: ") inner)
      (run quotedSetup quotedArgs quotedHost) ∧
    Reports quotedSetup quotedArgs (.context (text "parse interpreter: ") inner)
      (run quotedSetup quotedArgs equippedHost) ∧
    ∃ other, Fails quotedSetup quotedArgs quotedHost .envFile other := by
  obtain ⟨inner,first⟩ := quoted_first
  have here : quotedHost.workingDirectory = .ok (text "/w") := by rfl
  have there : equippedHost.workingDirectory = .ok (text "/w") := by rfl
  have beside : LogBeside quotedSetup quotedArgs quotedHost :=
    quoted_beside quotedHost_sound.files (by rfl) ⟨here,by rfl⟩ (.inl (by decide)) (by rfl) (by rfl)
      (by rfl) (by rfl) (by rfl) (by rfl)
  have elsewhere : LogBeside quotedSetup quotedArgs equippedHost :=
    quoted_beside (quotedHost_sound.put ..).files (by rfl) ⟨there,by rfl⟩ (.inl (by decide))
      (by rfl) (by rfl) (by rfl) (by rfl) (by rfl) (by rfl)
  obtain ⟨reports,again⟩ := (first_failing_check_decides beside).2 .interpreter _ first
  refine ⟨inner,reports,again quotedArgs equippedHost elsewhere fun earlier before => ?_,
    _,.envFile ⟨here,by rfl⟩ (by decide) (by decide) (by rfl)⟩
  cases earlier with
  | arguments => exact ⟨rfl,rfl⟩
  | toggle which => rfl
  | directory => exact there.trans here.symm
  | level => rfl
  | userSettings => exact ⟨by rfl,fun workDir path listed => by cases listed⟩
  | projectSettings =>
    refine ⟨rfl,fun workDir again path listed => ?_⟩
    cases here.symm.trans again
    cases List.mem_singleton.mp listed
    rfl
  | mode | interpreter => trivial
  | envFile => exact absurd before (by decide)

end ScriptLauncher.Program
