import ScriptLauncher.Proofs.Faults
import ScriptLauncher.Proofs.Events
import ScriptLauncher.Proofs.Plan

namespace ScriptLauncher.Program
open Launch

-- How a result turns into an ending.
theorem ending_usage {fault : Fault} (misuse : fault.isUsage = true) (program : Bytes)
    (colored : Bool) : ending (some fault) program colored =
      ⟨1,usageText program,[]⟩ := by
  simp [ending,misuse,usageLine_exact]

theorem ending_plain {fault : Fault} (plain : fault.Plain) (program : Bytes) (colored : Bool) :
    ending (some fault) program colored =
      ⟨1,[],faultText colored fault.message⟩ := by
  simp only [ending,plain.not_usage,plain.no_request,errorLabel_exact,Bool.false_eq_true,if_false]

theorem ending_code (code : Int) (program : Bytes) (colored : Bool) :
    ending (if code == 0 then none else some (.of (.exitRequest code))) program colored =
      ⟨code,[],[]⟩ := by
  by_cases zero : code = 0
  · simp [ending,zero]
  · simp [ending,zero,Fault.isUsage,Fault.exitRequest?,Fault.causes,Cause.isUsage,
      Cause.exitRequest?]

theorem operands_marker (args : List Bytes) : operands (marker :: args) = args := by
  simp [operands]

-- The checks before a launch.
theorem prepare_exact {args : List Bytes} {host : Host} {options : Options} {workDir : Bytes} :
    prepare args host = .ok (options,workDir) ↔
      ∃ filename, args = [filename] ∧ Options.ofEnvironment host.vars.get? = .ok options ∧
        host.workingDirectory = .ok workDir ∧ Log.Level.check options.logLevel = .ok () := by
  constructor
  · intro passed
    unfold prepare at passed
    cases single : singleArgument args with
    | error fault => simp [single] at passed
    | ok filename =>
      cases read : Options.ofEnvironment host.vars.get? with
      | error fault => simp [single,read] at passed
      | ok found =>
        cases dir : host.workingDirectory with
        | error fault => simp [single,read,dir] at passed
        | ok place =>
          cases level : Log.Level.check found.logLevel with
          | error fault => simp [single,read,dir,level] at passed
          | ok =>
            simp only [single,read,dir,level,Except.ok.injEq,Prod.mk.injEq] at passed
            obtain ⟨rfl,rfl⟩ := passed
            exact ⟨filename,singleArgument_exact.mp single,rfl,rfl,level⟩
  · rintro ⟨filename,rfl,read,dir,level⟩
    simp [prepare,singleArgument,read,dir,level]

theorem prepare_misused {args : List Bytes} (wrong : args.length ≠ 1) (host : Host) :
    ∃ fault, prepare args host = .error fault ∧ fault.isUsage = true := by
  obtain ⟨fault,misused,usage⟩ := singleArgument_fails wrong
  exact ⟨fault,by simp [prepare,misused],usage⟩

theorem prepare_plain {args : List Bytes} {host : Host} {fault : Fault} (single : args.length = 1)
    (failed : prepare args host = .error fault) : fault.Plain := by
  obtain ⟨filename,rfl⟩ := List.length_eq_one_iff.mp single
  unfold prepare at failed
  simp only [singleArgument] at failed
  split at failed
  · rename_i inner misset
    cases failed
    exact Options.ofEnvironment_plain misset
  · split at failed
    · rename_i inner lost
      cases failed
      exact (Host.workingDirectory_plain lost).context _
    · split at failed
      · rename_i inner unknown
        cases failed
        exact Log.Level.check_plain unknown
      · cases failed

-- Recording adds nothing to what children have written.
theorem record_streams (clock : Log.Moment) (entry : Log.Entry) (m : Machine) :
    (m.record clock entry).childOutput = m.childOutput ∧
      (m.record clock entry).childErrors = m.childErrors :=
  ⟨rfl,rfl⟩

theorem account_streams {setup : Setup} {options : Options} {workDir : Bytes} {host : Host}
    {m : Machine} {p : Progress Machine} {output warning : Bytes}
    (account : Account (around setup options workDir host) m p output warning []) :
    p.state.childOutput = m.childOutput ∧ p.state.childErrors = m.childErrors := by
  refine account.keeps (fun now => now.childOutput = m.childOutput ∧
    now.childErrors = m.childErrors) (fun entry now same => ?_) ⟨rfl,rfl⟩
  have here := record_streams setup.clock entry now
  exact ⟨here.1.trans same.1,here.2.trans same.2⟩

theorem started_streams (setup : Setup) (options : Options) (workDir : Bytes) (host : Host) :
    (started setup options workDir host).childOutput = [] ∧
      (started setup options workDir host).childErrors = [] :=
  record_streams ..

-- A launch with one argument fails only with faults that get printed.
theorem launch_plain {setup : Setup} {options : Options} {workDir : Bytes} {host : Host}
    {filename : Bytes} {m : Machine} {fault : Fault} {p : Progress Machine}
    (course : Course (around setup options workDir host) (request options [filename]) m
      (.error fault) p) : fault.Plain := by
  cases course with
  | misused wrong => cases wrong
  | unloaded single failed => exact (Settings.load_outer failed).plain.context _
  | rejected single loaded failed => exact LauncherSettings.check_plain failed
  | unplanned ready failed => exact plan_plain rfl failed
  | unequipped ready decided real failed =>
    unfold equipped withVariables at failed
    split at failed
    · cases failed
    · simp only [Prod.mk.injEq] at failed
      obtain ⟨failed,-⟩ := failed
      generalize (located _ _ _ _).2.state = there at failed
      generalize envPath _ _ = path at failed
      cases read : Dotenv.load there.host path with
      | error inner =>
        simp only [around,surroundings,read,Except.map,Except.error.injEq] at failed
        subst failed
        exact (Dotenv.load_outer read).plain
      | ok vars => simp [around,surroundings,read,Except.map] at failed

-- The four ways in which a run can end.
inductive Kind where
  | usage
  | fault
  | preview
  | dispatch
  deriving DecidableEq

-- What a run with one argument decided: the options and the settings it found, and the invocation
-- that its launch planned from them.
inductive Decided (setup : Setup) (argv : List Bytes) (host : Host) (options : Options)
    (settings : Settings) (inv : Invocation) : Prop where
  | intro (prepared : prepare (argv.drop 1) host = .ok (options,workDir))
      (ready : Ready (around setup options workDir host) (request options (argv.drop 1))
        (started setup options workDir host) filename settings mode)
      (decided : planned (around setup options workDir host) (request options (argv.drop 1))
        (started setup options workDir host) filename settings mode = .ok inv) :
      Decided setup argv host options settings inv

-- The warnings that a run shows: those of the settings that it has loaded, and else none.
inductive Alerts (setup : Setup) (argv : List Bytes) (host : Host) : List Bytes → Prop where
  | unprepared (failed : prepare (argv.drop 1) host = .error fault) : Alerts setup argv host []
  | unloaded (prepared : prepare (argv.drop 1) host = .ok (options,workDir))
      (failed : (around setup options workDir host).settings
        (started setup options workDir host) = .error fault) : Alerts setup argv host []
  | loaded (prepared : prepare (argv.drop 1) host = .ok (options,workDir))
      (loaded : (around setup options workDir host).settings
        (started setup options workDir host) = .ok settings) :
      Alerts setup argv host settings.warnings

-- All that can be observed of a run, for each kind. Where a command was run, its exit code and the
-- streams of its child are those of one call of the executor; otherwise there is no such call.
def Fits (setup : Setup) (argv : List Bytes) (host : Host) : Kind → Outcome → Prop
  | .usage,o => o =
    { ending := ⟨1,usageText (argv.headD (text "orion")),[]⟩
      commands := [],host := host,childOutput := [],childErrors := [] }
  | .fault,o => ∃ (fault : Fault) (shown : List Bytes) (after : Host),
    (perform setup (marker :: argv.drop 1) host).1 = some fault ∧ Alerts setup argv host shown ∧ o =
      { ending := ⟨1,[],shown.flatMap warningText ++ faultText setup.colored fault.message⟩
        commands := [],host := after,childOutput := [],childErrors := [] }
  | .preview,o => ∃ (options : Options) (settings : Settings) (inv : Invocation) (after : Host),
    Decided setup argv host options settings inv ∧ options.dryRun = true ∧ o =
      { ending := ⟨0,inv.commandLine ++ text "\n",warningLines settings⟩
        commands := [],host := after,childOutput := [],childErrors := [] }
  | .dispatch,o => ∃ (options : Options) (settings : Settings) (inv : Invocation) (cmd : Command)
      (before after : Host), let done := setup.execute cmd before
    Decided setup argv host options settings inv ∧ options.dryRun = false ∧
      Binds .standard settings.launcher.shell inv cmd ∧ o =
      { ending := ⟨if settings.launcher.propagateExitCode || options.propagateExitCode then
          exitCodeOf done.result else 0,[],warningLines settings⟩
        commands := [cmd],host := after,childOutput := done.output,childErrors := done.errors }

-- The kind shows: a command tells a dispatch, no output tells a fault, and of the two that print a
-- line the exit code tells which.
def kindOf (o : Outcome) : Kind :=
  if o.commands ≠ [] then .dispatch
  else if o.ending.output = [] then .fault
  else if o.ending.code = 1 then .usage
  else .preview

theorem kindOf_fits {setup : Setup} {argv : List Bytes} {host : Host} {kind : Kind} {o : Outcome}
    (fits : Fits setup argv host kind o) : kindOf o = kind := by
  have newline : text "\n" ≠ [] := by decide
  cases kind with
  | usage =>
    cases fits
    simp [kindOf,usageText_some]
  | fault =>
    obtain ⟨fault,shown,after,-,-,rfl⟩ := fits
    simp [kindOf]
  | preview =>
    obtain ⟨options,settings,inv,after,-,-,rfl⟩ := fits
    simp [kindOf,newline]
  | dispatch =>
    obtain ⟨options,settings,inv,cmd,before,after,-,-,-,rfl⟩ := fits
    simp [kindOf]

-- A run seen through what its launch came to.
def concluded (setup : Setup) (argv : List Bytes) (result : Option Fault)
    (p : Progress Machine) : Outcome :=
  let ended := ending result (argv.headD (text "orion")) setup.colored
  { ending := { ended with
      output := outputs p.events ++ ended.output
      errors := warnings p.events ++ ended.errors }
    commands := commands p.events
    host := p.state.host
    childOutput := p.state.childOutput
    childErrors := p.state.childErrors }

theorem run_concluded {setup : Setup} {argv : List Bytes} {host : Host} {result : Option Fault}
    {p : Progress Machine}
    (performed : perform setup (marker :: argv.drop 1) host = (result,p)) :
    run setup argv host = concluded setup argv result p := by
  unfold run
  rw [performed]
  rfl

theorem perform_failed (setup : Setup) {args : List Bytes} {host : Host} {fault : Fault}
    (failed : prepare args host = .error fault) :
    perform setup (marker :: args) host = (some fault,idle host) := by
  simp [perform,operands_marker,failed]

theorem perform_launched (setup : Setup) {args : List Bytes} {host : Host} {options : Options}
    {workDir : Bytes} (prepared : prepare args host = .ok (options,workDir)) :
    perform setup (marker :: args) host = launch setup options args workDir host := by
  simp [perform,operands_marker,prepared]

theorem launch_progress (setup : Setup) (options : Options) (args : List Bytes) (workDir : Bytes)
    (host : Host) : (launch setup options args workDir host).2 =
      (execute (around setup options workDir host) (request options args)
        (started setup options workDir host)).2 := by
  unfold launch
  split <;> simp [*]

-- A run that passes its checks shows and leaves what its launch does.
theorem run_through {argv : List Bytes} {host : Host} {options : Options} {workDir : Bytes}
    (setup : Setup) (prepared : prepare (argv.drop 1) host = .ok (options,workDir)) :
    run setup argv host = concluded setup argv (launch setup options (argv.drop 1) workDir host).1
      (execute (around setup options workDir host) (request options (argv.drop 1))
        (started setup options workDir host)).2 :=
  run_concluded ((perform_launched setup prepared).trans (Prod.ext rfl (launch_progress ..)))

theorem usage_fits {argv : List Bytes} (wrong : (argv.drop 1).length ≠ 1) (setup : Setup)
    (host : Host) : Fits setup argv host .usage (run setup argv host) := by
  obtain ⟨fault,failed,misuse⟩ := prepare_misused wrong host
  rw [run_concluded (perform_failed setup failed)]
  simp [Fits,concluded,ending_usage misuse,idle,outputs,warnings,commands]

theorem unprepared_fits {setup : Setup} {argv : List Bytes} {host : Host} {fault : Fault}
    (single : (argv.drop 1).length = 1) (failed : prepare (argv.drop 1) host = .error fault) :
    Fits setup argv host .fault (run setup argv host) := by
  have performed := perform_failed setup failed
  refine ⟨fault,[],host,by rw [performed],.unprepared failed,?_⟩
  rw [run_concluded performed]
  simp [concluded,ending_plain (prepare_plain single failed),idle,outputs,warnings,commands]

theorem launch_failed {setup : Setup} {options : Options} {args : List Bytes} {workDir : Bytes}
    {host : Host} {fault : Fault} {p : Progress Machine}
    (course : Course (around setup options workDir host) (request options args)
      (started setup options workDir host) (.error fault) p) :
    launch setup options args workDir host = (some fault,p) := by
  simp [launch,execute_complete course]

theorem launch_reported {setup : Setup} {options : Options} {args : List Bytes} {workDir : Bytes}
    {host : Host} {report : Report} {p : Progress Machine}
    (course : Course (around setup options workDir host) (request options args)
      (started setup options workDir host) (.ok report) p) :
    launch setup options args workDir host =
      (if report.exitCode == 0 then none else some (.of (.exitRequest report.exitCode)),p) := by
  simp [launch,execute_complete course]

-- What a launch that started nothing leaves to be seen.
theorem concluded_idle {setup : Setup} {argv : List Bytes} {result : Option Fault}
    {options : Options} {workDir : Bytes} {host : Host} {p : Progress Machine}
    {output warning : Bytes}
    (account : Account (around setup options workDir host) (started setup options workDir host) p
      output warning []) :
    let ended := ending result (argv.headD (text "orion")) setup.colored
    concluded setup argv result p =
      { ending := ⟨ended.code,output ++ ended.output,warning ++ ended.errors⟩
        commands := [],host := p.state.host,childOutput := [],childErrors := [] } := by
  obtain ⟨childOutput,childErrors⟩ := account_streams account
  obtain ⟨none_,nothing⟩ := started_streams setup options workDir host
  simp [concluded,account.outputs,account.warnings,account.commands,childOutput,childErrors,none_,
    nothing]

-- A launch that fails has shown the warnings of its settings, if it came to have any.
theorem failed_alerts {setup : Setup} {argv : List Bytes} {host : Host} {options : Options}
    {workDir filename : Bytes} {fault : Fault} {p : Progress Machine}
    (single : argv.drop 1 = [filename])
    (prepared : prepare (argv.drop 1) host = .ok (options,workDir))
    (course : Course (around setup options workDir host) (request options (argv.drop 1))
      (started setup options workDir host) (.error fault) p) :
    ∃ shown, Alerts setup argv host shown ∧ Account (around setup options workDir host)
      (started setup options workDir host) p [] (shown.flatMap warningText) [] := by
  cases course with
  | misused wrong =>
    have wrong : singleArgument (argv.drop 1) = .error fault := wrong
    rw [single] at wrong
    cases wrong
  | unloaded alone failed => exact ⟨[],.unloaded prepared failed,account_start ..⟩
  | rejected alone loaded failed => exact ⟨_,.loaded prepared loaded,account_warned ..⟩
  | unplanned ready failed => exact ⟨_,.loaded prepared ready.loaded,account_located ..⟩
  | unequipped ready decided real failed =>
    exact ⟨_,.loaded prepared ready.loaded,account_equipped failed⟩

theorem failed_fits {setup : Setup} {argv : List Bytes} {host : Host} {options : Options}
    {workDir filename : Bytes} {fault : Fault} {p : Progress Machine}
    (single : argv.drop 1 = [filename])
    (prepared : prepare (argv.drop 1) host = .ok (options,workDir))
    (course : Course (around setup options workDir host) (request options (argv.drop 1))
      (started setup options workDir host) (.error fault) p) :
    Fits setup argv host .fault (run setup argv host) := by
  obtain ⟨shown,alerts,account⟩ := failed_alerts single prepared course
  have performed : perform setup (marker :: argv.drop 1) host = (some fault,p) :=
    (perform_launched setup prepared).trans (launch_failed course)
  have plain : fault.Plain := by
    rw [single] at course
    exact launch_plain course
  refine ⟨fault,shown,p.state.host,by rw [performed],alerts,?_⟩
  rw [run_concluded performed,concluded_idle account,ending_plain plain]
  rfl

theorem previewed_fits {setup : Setup} {argv : List Bytes} {host : Host} {options : Options}
    {workDir filename : Bytes} {settings : Settings} {mode : Mode} {inv : Invocation}
    (prepared : prepare (argv.drop 1) host = .ok (options,workDir))
    (ready : Ready (around setup options workDir host) (request options (argv.drop 1))
      (started setup options workDir host) filename settings mode)
    (decided : planned (around setup options workDir host) (request options (argv.drop 1))
      (started setup options workDir host) filename settings mode = .ok inv)
    (dry : options.dryRun = true) :
    Fits setup argv host .preview (run setup argv host) := by
  have performed := (perform_launched setup prepared).trans
    (launch_reported (.previewed ready decided dry))
  refine ⟨options,settings,inv,(run setup argv host).host,.intro prepared ready decided,dry,?_⟩
  rw [run_concluded performed,concluded_idle (account_previewed ..),ending_code]
  simp

-- The one call of the executor, seen from the machine it ran on.
theorem dispatch_streams (setup : Setup) (options : Options) (workDir : Bytes) (host : Host)
    (launcher : LauncherSettings) (inv : Invocation) (cmd : Command) (p : Progress Machine) :
    let around := around setup options workDir host
    let done := setup.execute cmd (p.log around (dispatchEntry inv)).state.host
    let ended := dispatch around launcher inv cmd p
    ended.1.exitCode = (if launcher.propagateExitCode then exitCodeOf done.result else 0) ∧
      ended.2.state.childOutput = p.state.childOutput ++ done.output ∧
      ended.2.state.childErrors = p.state.childErrors ++ done.errors :=
  ⟨rfl,rfl,rfl⟩

-- A run that gets to its command: exactly one call of the executor, and nothing printed besides the
-- warnings of the settings.
theorem run_dispatched {setup : Setup} {argv : List Bytes} {host : Host} {options : Options}
    {workDir filename : Bytes} {settings : Settings} {mode : Mode} {inv : Invocation}
    {cmd : Command} {after : Progress Machine}
    (prepared : prepare (argv.drop 1) host = .ok (options,workDir))
    (ready : Ready (around setup options workDir host) (request options (argv.drop 1))
      (started setup options workDir host) filename settings mode)
    (decided : planned (around setup options workDir host) (request options (argv.drop 1))
      (started setup options workDir host) filename settings mode = .ok inv)
    (real : options.dryRun = false)
    (given : equipped (around setup options workDir host) (request options (argv.drop 1))
      (started setup options workDir host) settings inv = (.ok cmd,after)) :
    let done := setup.execute cmd
      (after.log (around setup options workDir host) (dispatchEntry inv)).state.host
    run setup argv host =
      { ending := ⟨if settings.launcher.propagateExitCode || options.propagateExitCode then
          exitCodeOf done.result else 0,[],warningLines settings⟩
        commands := [cmd],host := (run setup argv host).host
        childOutput := done.output,childErrors := done.errors } := by
  have performed := (perform_launched setup prepared).trans
    (launch_reported (.dispatched ready decided real given))
  have account := account_dispatched given (effective settings (request options (argv.drop 1)))
  obtain ⟨childOutput,childErrors⟩ := account_streams (account_equipped given)
  obtain ⟨none_,nothing⟩ := started_streams setup options workDir host
  obtain ⟨code,output,errors⟩ := dispatch_streams setup options workDir host
    (effective settings (request options (argv.drop 1))) inv cmd after
  rw [run_concluded performed,concluded,ending_code,code]
  simp only [account.outputs,account.warnings,account.commands,output,errors,childOutput,
    childErrors,none_,nothing,List.nil_append,List.append_nil]
  rfl

theorem dispatched_fits {setup : Setup} {argv : List Bytes} {host : Host} {options : Options}
    {workDir filename : Bytes} {settings : Settings} {mode : Mode} {inv : Invocation}
    {cmd : Command} {after : Progress Machine}
    (prepared : prepare (argv.drop 1) host = .ok (options,workDir))
    (ready : Ready (around setup options workDir host) (request options (argv.drop 1))
      (started setup options workDir host) filename settings mode)
    (decided : planned (around setup options workDir host) (request options (argv.drop 1))
      (started setup options workDir host) filename settings mode = .ok inv)
    (real : options.dryRun = false)
    (given : equipped (around setup options workDir host) (request options (argv.drop 1))
      (started setup options workDir host) settings inv = (.ok cmd,after)) :
    Fits setup argv host .dispatch (run setup argv host) :=
  ⟨options,settings,inv,cmd,_,_,.intro prepared ready decided,real,
    (equipped_binds decided given).2,run_dispatched prepared ready decided real given⟩

theorem launched_fits {setup : Setup} {argv : List Bytes} {host : Host} {options : Options}
    {workDir filename : Bytes} (single : argv.drop 1 = [filename])
    (prepared : prepare (argv.drop 1) host = .ok (options,workDir)) :
    ∃ kind, kind ≠ .usage ∧ Fits setup argv host kind (run setup argv host) := by
  obtain ⟨result,p,course⟩ := course_exists (around setup options workDir host)
    (request options (argv.drop 1)) (started setup options workDir host)
  cases result with
  | error fault => exact ⟨.fault,by decide,failed_fits single prepared course⟩
  | ok report =>
    cases course with
    | previewed ready decided dry =>
      exact ⟨.preview,by decide,previewed_fits prepared ready decided dry⟩
    | dispatched ready decided real given =>
      exact ⟨.dispatch,by decide,dispatched_fits prepared ready decided real given⟩

-- Whatever the arguments, the host and the executor, exactly one kind describes what a run does
-- and shows; and it is the usage line exactly when there is not one argument.
theorem run_ends_in_one_way (setup : Setup) (argv : List Bytes) (host : Host) :
    (∃ kind, Fits setup argv host kind (run setup argv host) ∧
      ∀ other, Fits setup argv host other (run setup argv host) → other = kind) ∧
    (Fits setup argv host .usage (run setup argv host) ↔ (argv.drop 1).length ≠ 1) := by
  have one (kind : Kind) (fits : Fits setup argv host kind (run setup argv host)) (other : Kind)
      (also : Fits setup argv host other (run setup argv host)) : other = kind := by
    rw [← kindOf_fits fits,← kindOf_fits also]
  by_cases single : (argv.drop 1).length = 1
  · have reached : ∃ kind, kind ≠ .usage ∧ Fits setup argv host kind (run setup argv host) := by
      obtain ⟨filename,alone⟩ := List.length_eq_one_iff.mp single
      cases prepared : prepare (argv.drop 1) host with
      | error fault => exact ⟨.fault,by decide,unprepared_fits single prepared⟩
      | ok found => exact launched_fits alone prepared
    obtain ⟨kind,different,fits⟩ := reached
    refine ⟨⟨kind,fits,one kind fits⟩,fun usage => ?_,fun wrong => (wrong single).elim⟩
    exact (different (one .usage usage kind fits)).elim
  · have fits := usage_fits single setup host
    exact ⟨⟨.usage,fits,one .usage fits⟩,fun _ => single,fun _ => fits⟩

-- Settings with a section that nobody knows and a mode that is none. Without a shell the mode does not
-- count.
def oddSetup : Setup where
  decoders := ⟨fun _ => .ok [(text "x",.other),
    (text "launcher",.table [(text "mode",.text (text "batch"))])],fun _ => .error []⟩
  execute _ host := { result := some (.of (.childStatus 3)),host }
  clock := ⟨2025,12,30,9,32,51⟩
  runId := text "run"

def oddHost (vars : Variables) : Host :=
  { (Host.put ⟨.empty,none,[]⟩ (text "/w/.orion.toml") [] 0o644).changeDirectory (text "/w") with
    vars }

theorem odd_settings_warn_in_every_ending :
    let told := text "Warning: unknown section: x\n"
    let argv := [text "orion",text "a"]
    let bare := (Variable.noShell,text "1")
    let failed := run oddSetup argv (oddHost [])
    let shown := run oddSetup argv (oddHost [bare,(Variable.dryRun,text "t")])
    let ran := run oddSetup argv (oddHost [bare])
    (Fits oddSetup argv (oddHost []) .fault failed ∧ failed.ending.errors = told ++
      text "error: invalid launch mode: \"batch\" (want \"shell\" or \"exec\")\n") ∧
    (Fits oddSetup argv (oddHost [bare,(Variable.dryRun,text "t")]) .preview shown ∧
      shown.ending.errors = told) ∧
    Fits oddSetup argv (oddHost [bare]) .dispatch ran ∧ ran.ending.errors = told := by
  have ends (argv : List Bytes) (host : Host) {kind : Kind}
      (seen : kindOf (run oddSetup argv host) = kind) :
      Fits oddSetup argv host kind (run oddSetup argv host) := by
    obtain ⟨⟨other,fits,-⟩,-⟩ := run_ends_in_one_way oddSetup argv host
    exact (kindOf_fits fits).symm.trans seen ▸ fits
  exact ⟨⟨ends _ _ (by decide +kernel),by decide +kernel⟩,
    ⟨ends _ _ (by decide +kernel),by decide +kernel⟩,ends _ _ (by decide +kernel),by decide +kernel⟩

end ScriptLauncher.Program
