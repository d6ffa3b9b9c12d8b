import ScriptLauncher.Proofs.Outcome

namespace ScriptLauncher

namespace Fault

mutual

-- A fault and every fault in it: each stands before those inside it, and these from left to right.
def preorder : Fault → List Fault
  | .of cause => [.of cause]
  | .within before inner after => .within before inner after :: preorder inner
  | .all faults => .all faults :: preorderOfAll faults

def preorderOfAll : List Fault → List Fault
  | [] => []
  | fault :: faults => preorder fault ++ preorderOfAll faults

end

-- What a fault says of itself and not through the faults in it.
def own {α : Type} (read : Cause → Option α) : Fault → Option α
  | .of cause => read cause
  | .within .. => none
  | .all _ => none

mutual

-- Context and joints say nothing themselves, so a search through all faults comes to the same as
-- one through the causes.
theorem findSome_preorder {α : Type} (read : Cause → Option α) :
    (fault : Fault) → fault.preorder.findSome? (own read) = fault.causes.findSome? read
  | .of cause => by simp [preorder,causes,own]
  | .within before inner after => by
    simpa [preorder,causes,List.findSome?_cons,own] using findSome_preorder read inner
  | .all faults => by
    simpa [preorder,causes,List.findSome?_cons,own] using findSome_preorderOfAll read faults

theorem findSome_preorderOfAll {α : Type} (read : Cause → Option α) :
    (faults : List Fault) →
      (preorderOfAll faults).findSome? (own read) = (causesOfAll faults).findSome? read
  | [] => rfl
  | fault :: faults => by
    simp only [preorderOfAll,causesOfAll,List.findSome?_append,findSome_preorder read fault,
      findSome_preorderOfAll read faults]

end

-- The status that a fault has itself; a request to end with a code is none.
def status? : Fault → Option Int := own Cause.childStatus?

-- The first fault with a status, in a fault, has this one.
def Carries (fault : Fault) (code : Int) : Prop :=
  ∃ before here after, fault.preorder = before ++ here :: after ∧ here.status? = some code ∧
    ∀ other ∈ before, other.status? = none

theorem carries_exact {fault : Fault} {code : Int} :
    fault.childStatus? = some code ↔ fault.Carries code := by
  rw [childStatus?,← findSome_preorder]
  exact List.findSome?_eq_some_iff

theorem bare_exact {fault : Fault} :
    fault.childStatus? = none ↔ ∀ inner ∈ fault.preorder, inner.status? = none := by
  rw [childStatus?,← findSome_preorder]
  exact List.findSome?_eq_none_iff

end Fault

-- The exit code of a child, read off the tree of faults that running it gave.
inductive Denotes : Option Fault → Int → Prop where
  | success : Denotes none 0
  | status (carried : fault.Carries code) (ended : 0 ≤ code) : Denotes (some fault) code
  | signal (carried : fault.Carries code) (killed : code < 0) : Denotes (some fault) 1
  | unstarted (bare : ∀ inner ∈ fault.preorder, inner.status? = none) : Denotes (some fault) 127

theorem exitCodeOf_denotes (result : Option Fault) : Denotes result (exitCodeOf result) := by
  cases result with
  | none => exact .success
  | some fault =>
    cases carried : fault.childStatus? with
    | none =>
      simp only [exitCodeOf,carried]
      exact .unstarted (Fault.bare_exact.mp carried)
    | some code =>
      simp only [exitCodeOf,carried]
      split
      · exact .status (Fault.carries_exact.mp carried) ‹_›
      · exact .signal (Fault.carries_exact.mp carried) (by omega)

theorem exitCodeOf_exact {result : Option Fault} {code : Int} :
    exitCodeOf result = code ↔ Denotes result code := by
  constructor
  · rintro rfl
    exact exitCodeOf_denotes result
  · intro denotes
    cases denotes with
    | success => rfl
    | status carried ended => simp [exitCodeOf,Fault.carries_exact.mpr carried,ended]
    | signal carried killed =>
      simp [exitCodeOf,Fault.carries_exact.mpr carried,Int.not_le.mpr killed]
    | unstarted bare => simp [exitCodeOf,Fault.bare_exact.mpr bare,notStarted]

theorem exitCodeOf_nonneg (result : Option Fault) : 0 ≤ exitCodeOf result := by
  have denotes := exitCodeOf_denotes result
  generalize exitCodeOf result = code at denotes
  cases denotes with
  | status carried ended => exact ended
  | success | signal | unstarted => decide

namespace Launch

variable {σ : Type}

-- The executor was called once, with this command and in the state to which the launch had come, and
-- gave this result.
def Answered (around : Surroundings σ) (state : σ) (events : List Event) (cmd : Command)
    (result : Option Fault) : Prop :=
  ∃ front back, events = front ++ .dispatched cmd :: back ∧ Program.commands front = [] ∧
    Program.commands back = [] ∧ (around.run cmd (replay around state front)).1 = result

theorem dispatch_answered {around : Surroundings σ} {request : Request} {state : σ}
    {settings : Settings} {inv : Invocation} {cmd : Command} {after : Progress σ}
    (given : equipped around request state settings inv = (.ok cmd,after))
    (launcher : LauncherSettings) :
    Answered around state (dispatch around launcher inv cmd after).2.events cmd
      (answer around inv cmd after) := by
  have account := Program.account_equipped given
  refine ⟨after.events ++ [.logged (dispatchEntry inv)],
    [.logged (outcomeEntry inv (answer around inv cmd after))],?_,?_,rfl,?_⟩
  · rw [dispatch_plays]
    simp [Progress.play,dispatchEvents]
  · rw [Program.commands_append,account.commands]
    rfl
  · simp [answer,Progress.log,account.reached,replay,Event.effect]

-- Only a launch that is reported as dispatched has started anything.
theorem Course.reported {around : Surroundings σ} {request : Request} {state : σ}
    {result : Except Fault Report} {p : Progress σ} (course : Course around request state result p)
    (started : Program.commands p.events ≠ []) :
    ∃ report, result = .ok report ∧ report.dispatched = true := by
  cases course with
  | misused wrong => exact (started rfl).elim
  | unloaded single failed => exact (started rfl).elim
  | rejected single loaded failed =>
    exact (started (Program.account_warned around state _).commands).elim
  | unplanned ready failed =>
    exact (started (Program.account_located around request state _).commands).elim
  | previewed ready decided dry =>
    exact (started (Program.account_previewed around request state _ _).commands).elim
  | unequipped ready decided real failed =>
    exact (started (Program.account_equipped failed).commands).elim
  | dispatched ready decided real given => exact ⟨_,rfl,rfl⟩

-- What becomes of the executor's result in the report of a launch.
theorem report_exact {around : Surroundings σ} {request : Request} {state : σ} {report : Report}
    {p : Progress σ} (ran : execute around request state = (.ok report,p))
    (dispatched : report.dispatched = true) :
    ∃ settings cmd result, around.settings state = .ok settings ∧
      Program.Account around state p [] (Program.warningLines settings) [cmd] ∧
      Answered around state p.events cmd result ∧ report.childExitCode = exitCodeOf result ∧
      report.exitCode = if settings.launcher.propagateExitCode || request.propagateExitCode then
        exitCodeOf result else 0 := by
  cases execute_exact.mp ran with
  | previewed ready decided dry => cases dispatched
  | dispatched ready decided real given =>
    exact ⟨_,_,_,ready.loaded,Program.account_dispatched given _,dispatch_answered given _,rfl,rfl⟩

end Launch

theorem Options.switch_true {lookup : Bytes → Option Bytes} {name : Bytes} {value : Bool}
    (read : switch lookup name = .ok value) :
    value = true ↔ (lookup name).getD [] ∈ trueSpellings := by
  have unset : [] ∉ trueSpellings := by decide
  unfold switch at read
  split at read
  · rename_i none_
    cases read
    simp [none_,unset]
  · rename_i empty
    cases read
    simp [empty,unset]
  · rename_i spelling _ given
    rw [given,Option.getD_some]
    unfold switch? at read
    by_cases on : spelling ∈ trueSpellings
    · simp only [List.contains_iff_mem,on,if_true] at read
      cases read
      simp [on]
    · simp only [List.contains_iff_mem,on,if_false] at read
      split at read
      · rename_i found
        split at found
        · cases found
          cases read
          simp [on]
        · cases found
      · cases read

-- Where each of the options comes from.
theorem Options.ofEnvironment_parts {lookup : Bytes → Option Bytes} {options : Options}
    (read : ofEnvironment lookup = .ok options) :
    switch lookup Variable.dryRun = .ok options.dryRun ∧
      switch lookup Variable.noShell = .ok options.noShell ∧
      switch lookup Variable.propagateExitCode = .ok options.propagateExitCode ∧
      options.configPath = (lookup Variable.config).getD [] ∧
      options.logLevel = (lookup Variable.logLevel).getD [] := by
  unfold ofEnvironment at read
  split at read
  · cases read
  · rename_i dryRun
    split at read
    · cases read
    · rename_i noShell
      split at read
      · cases read
      · rename_i propagates
        cases read
        exact ⟨dryRun,noShell,propagates,rfl,rfl⟩

namespace Program
open Launch

-- The launcher is asked to end as its child does, by a variable or by its settings.
def Propagates (host : Host) (settings : Settings) : Prop :=
  host.getenv Variable.propagateExitCode ∈ Options.trueSpellings ∨
    settings.launcher.propagateExitCode = true

instance (host : Host) (settings : Settings) : Decidable (Propagates host settings) :=
  inferInstanceAs (Decidable (_ ∨ _))

theorem propagates_exact {host : Host} {options : Options} (settings : Settings)
    (read : Options.ofEnvironment host.vars.get? = .ok options) :
    (settings.launcher.propagateExitCode || options.propagateExitCode) = true ↔
      Propagates host settings := by
  obtain ⟨-,-,switched,-,-⟩ := Options.ofEnvironment_parts read
  rw [Bool.or_eq_true,Options.switch_true switched]
  exact or_comm

-- A run that starts something has passed its checks, and its launch has been reported.
theorem run_reported {setup : Setup} {argv : List Bytes} {host : Host}
    (some_ : (run setup argv host).commands ≠ []) :
    ∃ options workDir report p, prepare (argv.drop 1) host = .ok (options,workDir) ∧
      execute (around setup options workDir host) (request options (argv.drop 1))
        (started setup options workDir host) = (.ok report,p) ∧ report.dispatched = true := by
  cases checked : prepare (argv.drop 1) host with
  | error fault =>
    rw [run_concluded (perform_failed setup checked)] at some_
    exact (some_ rfl).elim
  | ok found =>
    obtain ⟨options,workDir⟩ := found
    obtain ⟨result,p,course⟩ := course_exists (around setup options workDir host)
      (request options (argv.drop 1)) (started setup options workDir host)
    have ran := execute_complete course
    rw [run_through setup checked,ran] at some_
    obtain ⟨report,rfl,dispatched⟩ := course.reported some_
    exact ⟨options,workDir,report,p,rfl,ran,dispatched⟩

theorem run_ending {setup : Setup} {argv : List Bytes} {host : Host} {options : Options}
    {workDir : Bytes} {report : Report} {p : Progress Machine}
    (prepared : prepare (argv.drop 1) host = .ok (options,workDir))
    (ran : execute (around setup options workDir host) (request options (argv.drop 1))
      (started setup options workDir host) = (.ok report,p)) :
    (run setup argv host).commands = commands p.events ∧
      (run setup argv host).ending = ⟨report.exitCode,outputs p.events,warnings p.events⟩ := by
  have performed := (perform_launched setup prepared).trans (launch_reported (execute_exact.mp ran))
  rw [run_concluded performed,concluded,ending_code]
  simp

-- What a run that gets to its command makes of the executor's result.
def Concludes (setup : Setup) (argv : List Bytes) (host : Host) (options : Options)
    (workDir : Bytes) (settings : Settings) (report : Report) (result : Option Fault) : Prop :=
  let around := around setup options workDir host
  let state := started setup options workDir host
  around.settings state = .ok settings ∧
    ∃ p cmd, execute around (request options (argv.drop 1)) state = (.ok report,p) ∧
      Answered around state p.events cmd result ∧ report.childExitCode = exitCodeOf result ∧
      (run setup argv host).commands = [cmd] ∧ (run setup argv host).ending =
        ⟨if Propagates host settings then exitCodeOf result else 0,[],warningLines settings⟩

-- The exit code of a child is that of the first status in the tree of faults that running it gave;
-- it is never negative, and no context around a fault changes it. A run that gets to its command
-- reports it, ends with it exactly if asked to, and shows nothing but the warnings either way.
theorem exit_code_follows_child (setup : Setup) (argv : List Bytes) (host : Host) :
    (∀ result code, exitCodeOf result = code ↔ Denotes result code) ∧
    (∀ result, 0 ≤ exitCodeOf result) ∧
    (∀ before fault after,
      exitCodeOf (some (.within before fault after)) = exitCodeOf (some fault)) ∧
    (∀ code, exitCodeOf (some (.of (.exitRequest code))) = 127) ∧
    ((run setup argv host).commands ≠ [] → ∃ options workDir settings report result,
      Options.ofEnvironment host.vars.get? = .ok options ∧ host.workingDirectory = .ok workDir ∧
        Concludes setup argv host options workDir settings report result) := by
  refine ⟨fun _ _ => exitCodeOf_exact,exitCodeOf_nonneg,fun _ _ _ => rfl,fun _ => rfl,
    fun some_ => ?_⟩
  obtain ⟨options,workDir,report,p,prepared,ran,dispatched⟩ := run_reported some_
  obtain ⟨filename,-,read,here,-⟩ := prepare_exact.mp prepared
  obtain ⟨settings,cmd,result,loaded,account,answered,child,code⟩ := report_exact ran dispatched
  obtain ⟨commands,ending⟩ := run_ending prepared ran
  refine ⟨options,workDir,settings,report,result,read,here,loaded,p,cmd,ran,answered,child,
    commands.trans account.commands,?_⟩
  rw [ending,code,account.outputs,account.warnings]
  congr 1
  exact ite_congr (propext (propagates_exact settings read)) (fun _ => rfl) fun _ => rfl

-- A child that a signal ended, in the middle of faults that carry no status or a later one.
def sampleFault : Fault :=
  .context (text "run: ") (.all [.of (.exitRequest 9),.of .usage,
    .context (text "first: ") (.of (.childSignal (text "killed"))),.of (.childStatus 3)])

def killedSetup : Setup where
  decoders := ⟨fun _ => .error [],fun _ => .error []⟩
  execute _ host := { result := some sampleFault,host }
  clock := ⟨2025,12,30,9,32,51⟩
  runId := text "run"

def askedHost : Host := ⟨.empty,some [],[(Variable.propagateExitCode,text "True")]⟩

theorem killed_child_decides_exit_code :
    (run killedSetup [text "orion",text "x"] askedHost).commands ≠ [] ∧
      (run killedSetup [text "orion",text "x"] askedHost).ending.code = 1 := by
  have reached : (run killedSetup [text "orion",text "x"] askedHost).commands ≠ [] := by decide
  refine ⟨reached,?_⟩
  obtain ⟨options,workDir,settings,report,result,-,-,-,p,cmd,-,answered,-,-,ending⟩ :=
    (exit_code_follows_child killedSetup [text "orion",text "x"] askedHost).2.2.2.2 reached
  obtain ⟨front,back,-,-,-,rfl⟩ := answered
  have asked : Propagates askedHost settings := .inl (by decide)
  rw [ending,if_pos asked]
  rfl

end Program

end ScriptLauncher
