import ScriptLauncher.Proofs.Quoting
import ScriptLauncher.Proofs.Events
import ScriptLauncher.Proofs.Plan

namespace ScriptLauncher.Launch

variable {σ : Type}

-- The line that an invocation shows, read back as the command that it stands for.
def Reveals (rules : LineRules) (shell : Bytes) (inv : Invocation) (cmd : Command) : Prop :=
  match inv.mode with
  | .shell =>
    cmd.program = (if shell.isEmpty then text "sh" else shell) ∧
      cmd.args = [text "-c",inv.commandLine]
  | .exec =>
    rules.split inv.commandLine = .ok (cmd.program :: cmd.args) ∧
      inv.argv = some (cmd.program :: cmd.args)

theorem Binds.reveals {shell : Bytes} {inv : Invocation} {cmd : Command}
    (binds : Binds .standard shell inv cmd) : Reveals .standard shell inv cmd := by
  unfold Reveals
  cases binds with
  | shell mode =>
    rw [mode]
    exact ⟨rfl,rfl⟩
  | exec mode argv line =>
    rw [mode]
    refine ⟨?_,argv⟩
    rw [line]
    exact LineRules.standard_reads (Words.split_join _)

theorem previewed_reads_nothing (around : Surroundings σ) (request : Request) (state : σ)
    (settings : Settings) (inv : Invocation) (path : Bytes) :
    Event.readVariables path ∉
      (((located around request state settings).2.log around (dryRunEntry inv)).note
        (.output (inv.commandLine ++ text "\n"))).events := by
  obtain ⟨quiet,calm,played⟩ := located_plays around request state settings
  rw [preview_plays,played]
  simp only [Progress.play,start,List.nil_append,List.mem_append]
  rintro ((alert | early) | late)
  · simp [alerts] at alert
  · exact calm _ early
  · simp [previewEvents] at late

-- The same request, carried out or only shown.
def Request.real (request : Request) : Request := { request with dryRun := false }
def Request.dry (request : Request) : Request := { request with dryRun := true }

-- A launch that was carried out can be told apart from its preview by nothing but the dispatch.
theorem real_course {around : Surroundings σ} {request : Request} {state : σ} {report : Report}
    {p : Progress σ} (ran : execute around request.real state = (.ok report,p)) :
    ∃ filename settings mode inv cmd after,
      Ready around request.real state filename settings mode ∧
      planned around request.real state filename settings mode = .ok inv ∧
      equipped around request.real state settings inv = (.ok cmd,after) ∧
      report = (dispatch around (effective settings request.real) inv cmd after).1 ∧
      p = (dispatch around (effective settings request.real) inv cmd after).2 := by
  have course := execute_exact.mp ran
  cases course with
  | previewed ready decided dry => cases dry
  | dispatched ready decided real given => exact ⟨_,_,_,_,_,_,ready,decided,given,rfl,rfl⟩

theorem dry_execute {around : Surroundings σ} {request : Request} {state : σ} {filename : Bytes}
    {settings : Settings} {mode : Mode} {inv : Invocation}
    (ready : Ready around request.real state filename settings mode)
    (decided : planned around request.real state filename settings mode = .ok inv) :
    execute around request.dry state = (.ok { invocation := inv },
      ((located around request.dry state settings).2.log around (dryRunEntry inv)).note
        (.output (inv.commandLine ++ text "\n"))) := by
  -- Neither the checks nor the plan look at the switch.
  have dryReady : Ready around request.dry state filename settings mode :=
    ⟨ready.single,ready.loaded,ready.checked⟩
  exact execute_complete (.previewed dryReady decided rfl)

-- Whenever a launch dispatches a command, its dry run succeeds in the same place with the same
-- invocation, starts and reads nothing, and shows one line; and that line gives the command.
theorem dry_run_predicts_dispatch {around : Surroundings σ} (standard : around.rules = .standard)
    {request : Request} {state : σ} {report : Report} {p : Progress σ}
    (ran : execute around request.real state = (.ok report,p)) :
    ∃ settings cmd shown, around.settings state = .ok settings ∧
      report.dispatched = true ∧
      Program.Account around state p [] (Program.warningLines settings) [cmd] ∧
      execute around request.dry state = (.ok
        { invocation := report.invocation,childExitCode := 0,exitCode := 0,dispatched := false },
        shown) ∧
      Program.Account around state shown (report.invocation.commandLine ++ text "\n")
        (Program.warningLines settings) [] ∧
      (∀ path, Event.readVariables path ∉ shown.events) ∧
      cmd.dir = around.workDir ∧
      Reveals around.rules settings.launcher.shell report.invocation cmd := by
  obtain ⟨filename,settings,mode,inv,cmd,after,ready,decided,given,rfl,rfl⟩ := real_course ran
  obtain ⟨dir,binds⟩ := equipped_binds decided given
  refine ⟨settings,cmd,_,ready.loaded,rfl,Program.account_dispatched given _,
    dry_execute ready decided,Program.account_previewed ..,
    previewed_reads_nothing around request.dry state settings inv,binds.dir.trans dir,?_⟩
  rw [standard] at binds ⊢
  exact binds.reveals

-- A launch that has its plan and then cannot read the variables it was to give to its child.
inductive Stranded (around : Surroundings σ) (request : Request) (state : σ) (fault : Fault) :
    Prop where
  | intro (ready : Ready around request state filename settings mode)
      (decided : planned around request state filename settings mode = .ok inv)
      (named : settings.launcher.envFile ≠ [])
      (failed : around.vars (located around request state settings).2.state
        (envPath around.workDir settings.launcher.envFile) = .error fault) :
      Stranded around request state fault

theorem withVariables_fails {around : Surroundings σ} {launcher : LauncherSettings} {cmd : Command}
    {p : Progress σ} {fault : Fault} :
    (withVariables around launcher cmd p).1 = .error fault ↔ launcher.envFile ≠ [] ∧
      around.vars p.state (envPath around.workDir launcher.envFile) = .error fault := by
  unfold withVariables
  split
  · rename_i unnamed
    simp [List.isEmpty_iff.mp unnamed]
  · rename_i named
    have some_ : launcher.envFile ≠ [] := by simpa using named
    cases read : around.vars p.state (envPath around.workDir launcher.envFile) with
    | error inner => simp [read,Except.map,some_]
    | ok vars => simp [read,Except.map]

section

variable {around : Surroundings σ} {request : Request} {state : σ} {fault : Fault}

theorem Stranded.real (stranded : Stranded around request.real state fault) :
    (execute around request.real state).1 = .error fault := by
  obtain ⟨ready,decided,named,failed⟩ := stranded
  rename_i filename settings mode inv
  have lost : (equipped around request.real state settings inv).1 = .error fault :=
    withVariables_fails.mpr ⟨named,failed⟩
  rw [execute_complete (.unequipped ready decided rfl (Prod.ext lost rfl))]

theorem Stranded.dry (stranded : Stranded around request.real state fault) :
    ∃ report, (execute around request.dry state).1 = .ok report := by
  obtain ⟨ready,decided,-,-⟩ := stranded
  exact ⟨_,by rw [dry_execute ready decided]⟩

-- Up to the plan the switch is not looked at, so what stops a launch there stops it either way.
theorem Course.switched {one : Request} {p : Progress σ}
    (course : Course around one state (.error fault) p) (other : Request)
    (same : one.real = other.real) : Course around other state (.error fault) p ∨
      one.dryRun = false ∧ Stranded around one state fault := by
  obtain ⟨args,oneDry,noShell,propagate⟩ := one
  obtain ⟨otherArgs,otherDry,otherNoShell,otherPropagate⟩ := other
  simp only [Request.real,Request.mk.injEq,true_and] at same
  obtain ⟨rfl,rfl,rfl⟩ := same
  cases course with
  | misused wrong => exact .inl (.misused wrong)
  | unloaded single lost => exact .inl (.unloaded single lost)
  | rejected single loaded refused => exact .inl (.rejected single loaded refused)
  | unplanned ready lost =>
    exact .inl (.unplanned ⟨ready.single,ready.loaded,ready.checked⟩ lost)
  | unequipped ready decided real lost =>
    obtain ⟨named,unread⟩ := withVariables_fails.mp (congrArg Prod.fst lost)
    exact .inr ⟨real,.intro ready decided named unread⟩

theorem dry_fails (failed : (execute around request.dry state).1 = .error fault) :
    (execute around request.real state).1 = .error fault := by
  have course := execute_exact.mp (Prod.ext failed rfl : execute around request.dry state = (_,_))
  rcases course.switched request.real rfl with real | ⟨carried,-⟩
  · rw [execute_complete real]
  · cases carried

theorem real_fails (failed : (execute around request.real state).1 = .error fault) :
    (execute around request.dry state).1 = .error fault ∨ Stranded around request.real state fault := by
  have course := execute_exact.mp (Prod.ext failed rfl : execute around request.real state = (_,_))
  rcases course.switched request.dry rfl with dry | ⟨-,stranded⟩
  · exact .inl (by rw [execute_complete dry])
  · exact .inr stranded

end

-- A dry run fails as the real run does, with one exception that it does not come to: variables that
-- cannot be read. Only without such variables do the two fail alike, and only then does a dry run
-- that succeeds promise that the real run gets to its command.
theorem dry_run_fails_alike_iff (around : Surroundings σ) (request : Request) (state : σ) :
    (∀ fault, (execute around request.real state).1 = .error fault ↔
      (execute around request.dry state).1 = .error fault ∨ Stranded around request.real state fault) ∧
    ((∀ fault, (execute around request.dry state).1 = .error fault ↔
        (execute around request.real state).1 = .error fault) ↔
      ∀ fault, ¬ Stranded around request.real state fault) ∧
    ∀ preview, (execute around request.dry state).1 = .ok preview →
      ((∃ report, (execute around request.real state).1 = .ok report ∧ report.dispatched = true) ↔
        ∀ fault, ¬ Stranded around request.real state fault) := by
  refine ⟨fun fault => ⟨real_fails,?_⟩,⟨?_,?_⟩,fun preview previewed => ⟨?_,?_⟩⟩
  · rintro (dry | stranded)
    · exact dry_fails dry
    · exact stranded.real
  · intro alike fault stranded
    obtain ⟨report,succeeds⟩ := stranded.dry
    rw [(alike fault).mpr stranded.real] at succeeds
    cases succeeds
  · intro free fault
    refine ⟨dry_fails,fun failed => ?_⟩
    rcases real_fails failed with dry | stranded
    · exact dry
    · exact (free fault stranded).elim
  · rintro ⟨report,ran,-⟩ fault stranded
    rw [stranded.real] at ran
    cases ran
  · intro free
    cases ran : (execute around request.real state).1 with
    | ok report =>
      obtain ⟨filename,settings,mode,inv,cmd,after,-,-,-,rfl,-⟩ :=
        real_course (show execute around request.real state = (.ok report,_) from Prod.ext ran rfl)
      exact ⟨_,rfl,rfl⟩
    | error fault =>
      rcases real_fails ran with dry | stranded
      · rw [previewed] at dry
        cases dry
      · exact (free fault stranded).elim

-- A launch without a shell whose argument needs quoting, whose child gets variables and fails.
def sampleAround : Surroundings (List Log.Entry) where
  settings _ := .ok
    { launcher :=
        { interpreter := text "python3 -u", entryScript := text "main.py",
          mode := Mode.exec.name, envFile := text ".env" } }
  isFile _ _ := false
  worktree _ _ := .error (.of .notARepository)
  vars _ _ := .ok [(text "K",text "1")]
  record entry log := log ++ [entry]
  run _ log := (some (.of (.childStatus 3)),log)
  rules := .standard
  environ := [text "K=0"]
  workDir := text "/w"
  runId := text "run"

def sampleRequest : Request := { args := [text "it's $x"] }

def sampleReport : Report where
  invocation :=
    { runId := text "run",filename := text "it's $x",
      commandLine := text "python3 -u main.py 'it'\\''s $x'",dir := text "/w",mode := .exec,
      argv := some [text "python3",text "-u",text "main.py",text "it's $x"] }
  childExitCode := 3
  dispatched := true

theorem sample_ran : execute sampleAround sampleRequest.real [] =
    (.ok sampleReport,(execute sampleAround sampleRequest.real []).2) :=
  Prod.ext (by rfl) rfl

theorem dry_run_predicts_sample : ∃ cmd,
    Program.commands (execute sampleAround sampleRequest.real []).2.events = [cmd] ∧
      LineRules.standard.split sampleReport.invocation.commandLine =
        .ok (cmd.program :: cmd.args) ∧
      (execute sampleAround sampleRequest.dry []).1.toOption.map Report.dispatched = some false := by
  obtain ⟨_,cmd,_,-,-,carried,dry,-,-,-,revealed⟩ :=
    dry_run_predicts_dispatch (rfl : sampleAround.rules = .standard) sample_ran
  exact ⟨cmd,carried.commands,revealed.1,by rw [dry]; rfl⟩

theorem sample_not_stranded (fault : Fault) : ¬ Stranded sampleAround sampleRequest.real [] fault := by
  rintro ⟨ready,decided,named,failed⟩
  cases failed

theorem sample_dry_run_keeps_promise : ∃ report,
    (execute sampleAround sampleRequest.real []).1 = .ok report ∧ report.dispatched = true :=
  ((dry_run_fails_alike_iff sampleAround sampleRequest []).2.2 _ (by rfl)).mpr sample_not_stranded

-- The same launch where the file of variables is missing.
def unreadAround : Surroundings (List Log.Entry) :=
  { sampleAround with
    vars := fun _ path => .error (.context (text "read env file " ++ path ++ text ": ")
      (.of .absent)) }

theorem missing_variables_pass_dry_run :
    (execute unreadAround sampleRequest.dry []).1.toOption.isSome = true ∧
    (∃ fault, (execute unreadAround sampleRequest.real []).1 = .error fault ∧
      fault.message = text "read env file /w/.env: file does not exist") ∧
    ¬ ∀ fault, (execute unreadAround sampleRequest.dry []).1 = .error fault ↔
      (execute unreadAround sampleRequest.real []).1 = .error fault := by
  refine ⟨by rfl,⟨_,by rfl,by rfl⟩,fun alike => ?_⟩
  cases (alike _).mpr (by rfl)

end ScriptLauncher.Launch
