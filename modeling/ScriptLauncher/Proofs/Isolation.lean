import ScriptLauncher.Proofs.Script

namespace ScriptLauncher

theorem Mode.ofName?_exact {name : Bytes} {mode : Mode} :
    Mode.ofName? name = some mode ↔ name = mode.name := by
  unfold Mode.ofName?
  by_cases shell : name = text "shell"
  · subst shell
    cases mode <;> decide
  · by_cases exec : name = text "exec"
    · subst exec
      cases mode <;> decide
    · cases mode <;> simp [shell,exec,Mode.name]

theorem LauncherSettings.check_mode {launcher : LauncherSettings} {mode : Mode}
    (checked : launcher.check = .ok mode) : launcher.mode = mode.name := by
  unfold LauncherSettings.check at checked
  split at checked
  · cases checked
  · split at checked
    · cases checked
    · split at checked
      · rename_i known
        cases checked
        exact Mode.ofName?_exact.mp known
      · cases checked

namespace Launch

variable {σ : Type}

-- A launch without a shell: it is asked for, or settings that can be loaded say so.
inductive Shellless (around : Surroundings σ) (request : Request) (state : σ) : Prop where
  | asked (on : request.noShell = true) : Shellless around request state
  | set (mode : ∀ settings, around.settings state = .ok settings →
      settings.launcher.mode = Mode.exec.name) : Shellless around request state

def Request.on (request : Request) (filename : Bytes) : Request := { request with args := [filename] }

-- The same surroundings on another system, with another shell and another mode in their settings.
def reshelled (around : Surroundings σ) (shell mode : Bytes) (plainShell : Bool) : Surroundings σ :=
  { around with
    settings := fun state => (around.settings state).map fun settings =>
      { settings with launcher := { settings.launcher with shell,mode } }
    plainShell }

theorem Shellless.mode {around : Surroundings σ} {request : Request} {state : σ}
    (shellless : Shellless around request state) {settings : Settings}
    (loaded : around.settings state = .ok settings) :
    (effective settings request).mode = Mode.exec.name := by
  cases shellless with
  | asked on => simp [effective,on]
  | set mode => simp [effective,mode settings loaded]

theorem Shellless.exec {around : Surroundings σ} {request : Request} {state : σ}
    (shellless : Shellless around request state) {settings : Settings} {mode : Mode}
    (loaded : around.settings state = .ok settings)
    (checked : (effective settings request).check = .ok mode) : mode = .exec := by
  have named := (shellless.mode loaded).symm.trans (LauncherSettings.check_mode checked)
  cases mode with
  | shell => exact absurd named (by decide)
  | exec => rfl

-- Whether a command gets its environment, and which one, does not depend on the command.
theorem withVariables_uniform (around : Surroundings σ) (launcher : LauncherSettings)
    (p : Progress σ) :
    (∃ fault, launcher.envFile ≠ [] ∧
      around.vars p.state (envPath around.workDir launcher.envFile) = .error fault) ∨
    ∃ env, ∀ program args dir,
      (withVariables around launcher ⟨program,args,dir,none⟩ p).1 = .ok ⟨program,args,dir,env⟩ := by
  unfold withVariables
  split
  · exact .inr ⟨none,fun _ _ _ => rfl⟩
  · rename_i named
    cases read : around.vars p.state (envPath around.workDir launcher.envFile) with
    | error fault => exact .inl ⟨fault,by simpa using named,rfl⟩
    | ok vars =>
      exact .inr ⟨some (Environment.merge around.environ vars),fun _ _ _ => by simp [read,Except.map]⟩

-- How launches that differ in their argument go: a fault stops them all, or all of them succeed, with
-- commands that are the same up to the last argument. That one is the argument as it was given.
inductive Isolated (around : Surroundings σ) (request : Request) (state : σ) : Prop where
  | stopped (fault : Fault) (failed : ∀ filename, (execute around (request.on filename) state).1 = .error fault) :
      Isolated around request state
  | carried (env : Option (List Bytes)) (loaded : around.settings state = .ok settings)
      (interpreter : around.rules.split settings.launcher.interpreter = .ok (program :: args))
      (located : Locates around state (effective settings request) script)
      (done : ∀ filename, ∃ report,
        (execute around (request.on filename) state).1 = .ok report ∧
        report.invocation.argv = some (program :: args ++ [script.path,filename]) ∧
        Program.commands (execute around (request.on filename) state).2.events =
          if request.dryRun then []
          else [⟨program,args ++ [script.path,filename],around.workDir,env⟩]) :
      Isolated around request state

section

variable {around : Surroundings σ} {request : Request} {state : σ} {settings : Settings}

theorem Ready.on {mode : Mode} (loaded : around.settings state = .ok settings)
    (checked : (effective settings request).check = .ok mode) (filename : Bytes) :
    Ready around (request.on filename) state filename settings mode :=
  ⟨rfl,loaded,checked⟩

-- The invocation that hands over words as they are.
def bare (around : Surroundings σ) (words : List Bytes) (filename : Bytes) : Invocation :=
  ⟨around.runId,filename,around.rules.join words,around.workDir,.exec,some words⟩

theorem planned_bare {program : Bytes} {args : List Bytes}
    (interpreter : around.rules.split settings.launcher.interpreter = .ok (program :: args))
    (filename : Bytes) : planned around (request.on filename) state filename settings .exec =
      .ok (bare around (program :: args ++ [(located around request state settings).1.path,filename])
        filename) := by
  have read : around.rules.split (effective settings (request.on filename)).interpreter =
      .ok (program :: args) := interpreter
  simp only [planned,plan,execWords,read,Except.map]
  rfl

theorem equipped_bare {env : Option (List Bytes)}
    (given : ∀ program args dir, (withVariables around (effective settings request)
      ⟨program,args,dir,none⟩ (located around request state settings).2).1 =
        .ok ⟨program,args,dir,env⟩)
    (program : Bytes) (args : List Bytes) (filename : Bytes) :
    equipped around (request.on filename) state settings (bare around (program :: args) filename) =
      (.ok ⟨program,args,around.workDir,env⟩,
        (equipped around (request.on filename) state settings
          (bare around (program :: args) filename)).2) :=
  Prod.ext (given program args around.workDir) rfl

-- The argument comes into a launch only with its plan, when everything else has been looked for.
theorem planned_isolated {program : Bytes} {args : List Bytes}
    (loaded : around.settings state = .ok settings)
    (checked : (effective settings request).check = .ok .exec)
    (interpreter : around.rules.split settings.launcher.interpreter = .ok (program :: args)) :
    Isolated around request state := by
  have ready := Ready.on loaded checked
  have decided (filename : Bytes) :
      planned around (request.on filename) state filename settings .exec = .ok (bare around
        (program :: args ++ [(located around request state settings).1.path,filename]) filename) :=
    planned_bare interpreter filename
  have script := locateScript_locates around (effective settings request) (warned state settings)
  cases dry : request.dryRun with
  | true =>
    refine .carried none loaded interpreter script fun filename => ?_
    have course := Course.previewed (ready filename) (decided filename) dry
    refine ⟨_,congrArg Prod.fst (execute_complete course),rfl,?_⟩
    rw [execute_complete course,(Program.account_previewed ..).commands,dry]
    rfl
  | false =>
    rcases withVariables_uniform around (effective settings request)
      (located around request state settings).2 with ⟨fault,named,failed⟩ | ⟨env,given⟩
    · refine .stopped fault fun filename => (ready_fails (ready filename) fault).mpr (.inr ?_)
      exact ⟨dry,.intro (ready filename) (decided filename) named failed⟩
    · refine .carried env loaded interpreter script fun filename => ?_
      have equips := equipped_bare given program
        (args ++ [(located around request state settings).1.path,filename]) filename
      have course := Course.dispatched (ready filename) (decided filename) dry equips
      refine ⟨_,congrArg Prod.fst (execute_complete course),rfl,?_⟩
      have account :=
        Program.account_dispatched equips (effective settings (request.on filename))
      rw [execute_complete course,dry]
      exact account.commands

theorem shellless_isolated (shellless : Shellless around request state) :
    Isolated around request state := by
  cases loaded : around.settings state with
  | error fault =>
    refine .stopped (.context (text "load config: ") fault) fun filename => ?_
    have course : Course around (request.on filename) state _ _ := .unloaded rfl loaded
    rw [execute_complete course]
  | ok settings =>
    cases checked : (effective settings request).check with
    | error fault =>
      refine .stopped fault fun filename => ?_
      have course : Course around (request.on filename) state _ _ := .rejected rfl loaded checked
      rw [execute_complete course]
    | ok mode =>
      have exec := shellless.exec loaded checked
      subst exec
      cases planned_ : planned around (request.on []) state [] settings .exec with
      | error fault =>
        refine .stopped fault fun filename => ?_
        have failed := plan_fails planned_ (located around request state settings).1 filename
        have course : Course around (request.on filename) state _ _ :=
          .unplanned (Ready.on loaded checked filename) failed
        rw [execute_complete course]
      | ok inv =>
        cases plan_shows planned_ with
        | words interpreter some_ =>
          obtain ⟨program,args,rfl⟩ := List.exists_cons_of_ne_nil some_
          exact planned_isolated loaded checked interpreter

end

-- A launcher's settings with another shell.
def shelled (launcher : LauncherSettings) (shell : Bytes) : LauncherSettings :=
  { launcher with shell }

-- Nothing of what the settings of a shell would change is looked at for words that are handed over
-- as they are.
theorem carryOut_shelled (around : Surroundings σ) (plainShell : Bool) (request : Request)
    (launcher : LauncherSettings) (shell : Bytes) (script : Script) (filename : Bytes)
    (p : Progress σ) :
    carryOut { around with plainShell } request (shelled launcher shell) .exec script filename p =
      carryOut around request launcher .exec script filename p := by
  have plans : plan { around with plainShell } (shelled launcher shell) .exec script filename =
      plan around launcher .exec script filename := rfl
  unfold carryOut
  rw [plans]
  cases decided : plan around launcher .exec script filename with
  | error fault => rfl
  | ok inv =>
    cases plan_shows decided with
    | words interpreter some_ => rfl

theorem execute_reshelled {around : Surroundings σ} {request : Request} {state : σ}
    (shellless : Shellless around request state) {mode : Bytes}
    (kept : request.noShell = true ∨ mode = Mode.exec.name) (shell : Bytes) (plainShell : Bool) :
    execute (reshelled around shell mode plainShell) request state =
      execute around request state := by
  cases argument : singleArgument request.args with
  | error fault => simp [execute,argument]
  | ok filename =>
    cases loaded : around.settings state with
    | error fault => simp [execute,argument,reshelled,loaded,Except.map]
    | ok settings =>
      have again : (reshelled around shell mode plainShell).settings state =
          .ok { settings with launcher := { settings.launcher with shell,mode } } := by
        simp [reshelled,loaded,Except.map]
      have exec := shellless.mode loaded
      have same : effective { settings with launcher := { settings.launcher with shell,mode } }
          request = shelled (effective settings request) shell := by
        unfold effective at exec ⊢
        rcases kept with asked | rfl
        · simp [shelled,asked]
        · simp only at exec
          simp [shelled,exec]
      cases checked : (effective settings request).check with
      | error fault =>
        have refused : (shelled (effective settings request) shell).check = .error fault := checked
        simp [execute,argument,loaded,again,same,checked,refused]
        rfl
      | ok found =>
        have exec_ := shellless.exec loaded checked
        subst exec_
        have passed : (shelled (effective settings request) shell).check = .ok .exec := checked
        simp only [execute,argument,loaded,again,same,checked,passed]
        exact carryOut_shelled around plainShell request (effective settings request) shell ..

-- A launch without a shell keeps its argument to itself. Whatever the argument is made of, the launch
-- stops at the same fault as with any other, or hands over the same words with the argument behind
-- them. It does not depend on the shell of the settings or of the system, and where no shell was asked
-- for it does not depend on the mode that the settings name, be it a mode or not.
theorem exec_mode_isolates_argument {around : Surroundings σ} {request : Request} {state : σ}
    (shellless : Shellless around request state) : Isolated around request state ∧
      ∀ shell mode plainShell, request.noShell = true ∨ mode = Mode.exec.name → ∀ filename,
        execute (reshelled around shell mode plainShell) (request.on filename) state =
          execute around (request.on filename) state := by
  refine ⟨shellless_isolated shellless,fun shell mode plainShell kept filename => ?_⟩
  have on : Shellless around (request.on filename) state := by
    cases shellless with
    | asked on => exact .asked on
    | set mode => exact .set mode
  exact execute_reshelled on kept shell plainShell

-- An argument that a shell would take apart, and a mode that is none.
def bareRequest : Request := { sampleRequest with noShell := true }

theorem sample_argument_isolated : ∃ env,
    Program.commands (execute sampleAround (bareRequest.on (text "a; rm $x")) []).2.events =
      [⟨text "python3",[text "-u",text "main.py",text "a; rm $x"],text "/w",env⟩] ∧
    execute (reshelled sampleAround (text "fish") (text "none") true)
        (bareRequest.on (text "a; rm $x")) [] =
      execute sampleAround (bareRequest.on (text "a; rm $x")) [] := by
  have shellless : Shellless sampleAround bareRequest [] := .asked rfl
  obtain ⟨isolated,reshelled_⟩ := exec_mode_isolates_argument shellless
  have same := reshelled_ (text "fish") (text "none") true (.inl rfl) (text "a; rm $x")
  cases isolated with
  | stopped fault failed => cases failed (text "a; rm $x")
  | carried env loaded interpreter located_ done =>
    cases loaded
    have words : Words.split (text "python3 -u") = .ok [text "python3",text "-u"] := by rfl
    cases interpreter.symm.trans (LineRules.standard_reads words)
    cases located_ with
    | found stands => cases stands.wanting.on
    | kept nowhere =>
      obtain ⟨report,-,-,carried⟩ := done (text "a; rm $x")
      exact ⟨env,carried,same⟩

end Launch

end ScriptLauncher
