import ScriptLauncher.Proofs.DryRun
import ScriptLauncher.Proofs.Modes

namespace ScriptLauncher

namespace Launch

variable {σ : Type}

-- A script that settings want looked for and that is not where the launch runs.
structure Wanting (around : Surroundings σ) (state : σ) (launcher : LauncherSettings) : Prop where
  on : launcher.resolveEntryScript = true
  relative : Path.isAbsolute launcher.entryScript = false
  missing : around.isFile state (Path.join [around.workDir,launcher.entryScript]) = false

-- A script that is wanted and stands at the root of the worktree.
structure StandsAt (around : Surroundings σ) (state : σ) (launcher : LauncherSettings)
    (root : Bytes) : Prop where
  wanting : Wanting around state launcher
  inside : around.worktree state around.workDir = .ok root
  there : around.isFile state (Path.join [root,launcher.entryScript]) = true

inductive Locates (around : Surroundings σ) (state : σ) (launcher : LauncherSettings) :
    Script → Prop where
  | found (stands : StandsAt around state launcher root) :
      Locates around state launcher ⟨Path.join [root,launcher.entryScript],true⟩
  | kept (nowhere : ∀ root, ¬StandsAt around state launcher root) :
      Locates around state launcher ⟨launcher.entryScript,false⟩

theorem Locates.unique {around : Surroundings σ} {state : σ} {launcher : LauncherSettings}
    {one other : Script} (first : Locates around state launcher one)
    (second : Locates around state launcher other) : one = other := by
  cases first with
  | found stands =>
    cases second with
    | found again =>
      have same := stands.inside.symm.trans again.inside
      cases same
      rfl
    | kept nowhere => exact (nowhere _ stands).elim
  | kept nowhere =>
    cases second with
    | found stands => exact (nowhere _ stands).elim
    | kept _ => rfl

theorem locateScript_keeps {around : Surroundings σ} {launcher : LauncherSettings} {p : Progress σ}
    (content : ¬Wanting around p.state launcher) :
    locateScript around launcher p = (⟨launcher.entryScript,false⟩,p) := by
  unfold locateScript
  split
  · rename_i on
    unfold resolveScript
    split
    · rfl
    · rename_i off
      simp only [Bool.or_eq_true,not_or,Bool.not_eq_true] at off
      exact (content ⟨on,off.1,off.2⟩).elim
  · rfl

theorem locateScript_resolves {around : Surroundings σ} {launcher : LauncherSettings}
    {p : Progress σ} (wanting : Wanting around p.state launcher) :
    locateScript around launcher p =
      match around.worktree p.state around.workDir with
      | .error fault => (⟨launcher.entryScript,false⟩,
          if fault.isNotARepository then p.note (.lookedUp around.workDir)
          else (p.note (.lookedUp around.workDir)).log around (lookupEntry fault))
      | .ok root =>
        if around.isFile p.state (Path.join [root,launcher.entryScript]) then
          (⟨Path.join [root,launcher.entryScript],true⟩,
            (p.note (.lookedUp around.workDir)).log around
              (resolvedEntry (Path.join [root,launcher.entryScript])))
        else (⟨launcher.entryScript,false⟩,p.note (.lookedUp around.workDir)) := by
  obtain ⟨on,relative,missing⟩ := wanting
  simp only [locateScript,on,if_true,resolveScript,relative,missing,Bool.or_false,
    Bool.false_eq_true,if_false]
  cases around.worktree p.state around.workDir with
  | error fault =>
    dsimp only
    split <;> rfl
  | ok root => rfl

theorem locateScript_locates (around : Surroundings σ) (launcher : LauncherSettings)
    (p : Progress σ) : Locates around p.state launcher (locateScript around launcher p).1 := by
  by_cases wanting : Wanting around p.state launcher
  · rw [locateScript_resolves wanting]
    cases inside : around.worktree p.state around.workDir with
    | error fault =>
      refine .kept fun root stands => ?_
      have other := stands.inside
      rw [inside] at other
      cases other
    | ok root =>
      dsimp only
      split
      · rename_i there
        exact .found ⟨wanting,inside,there⟩
      · rename_i absent
        refine .kept fun other stands => ?_
        have same := inside.symm.trans stands.inside
        cases same
        exact absent stands.there
  · rw [locateScript_keeps wanting]
    exact .kept fun _ stands => wanting stands.wanting

-- The directories for which a launch has asked for the worktree, in their order.
def lookups (events : List Event) : List Bytes :=
  events.filterMap fun
    | .lookedUp dir => some dir
    | _ => none

@[simp] theorem lookups_append (before after : List Event) :
    lookups (before ++ after) = lookups before ++ lookups after := by simp [lookups]

section

variable {around : Surroundings σ} {request : Request} {state : σ}

end

-- How an invocation has its script: on the line for a shell, where it is quoted exactly if it was
-- found, or as a word of its own.
inductive Shows (around : Surroundings σ) (launcher : LauncherSettings) (script : Script)
    (filename : Bytes) : Mode → Invocation → Prop where
  | line : Shows around launcher script filename .shell
      ⟨around.runId,filename,launcher.interpreter ++ Bytes.space ::
        (script.spelling around.rules around.plainShell launcher.shell ++ Bytes.space :: filename),
        around.workDir,.shell,none⟩
  | words (split_ : around.rules.split launcher.interpreter = .ok words) (some_ : words ≠ []) :
      Shows around launcher script filename .exec
        ⟨around.runId,filename,around.rules.join (words ++ [script.path,filename]),around.workDir,
          .exec,some (words ++ [script.path,filename])⟩

section

variable {around : Surroundings σ} {launcher : LauncherSettings} {mode : Mode} {script : Script}
  {filename : Bytes} {inv : Invocation}

theorem plan_shows (decided : plan around launcher mode script filename = .ok inv) :
    Shows around launcher script filename mode inv := by
  cases mode with
  | shell =>
    cases decided
    have line : shellLine around.rules around.plainShell launcher script filename =
        launcher.interpreter ++ Bytes.space ::
          (script.spelling around.rules around.plainShell launcher.shell ++
            Bytes.space :: filename) := by
      simp [shellLine,LauncherSettings.lead,Script.spelling]
    rw [line]
    exact .line
  | exec =>
    simp only [plan] at decided
    cases read : execWords around.rules launcher script filename with
    | error fault => simp [read,Except.map] at decided
    | ok words =>
      obtain ⟨program,args,split_,rfl⟩ := execWords_parts read
      simp only [read,Except.map,Except.ok.injEq] at decided
      subst decided
      exact .words split_ (by simp)

-- Whether there is a plan does not depend on the script, nor on the argument.
theorem plan_fails {fault : Fault} (failed : plan around launcher mode script filename = .error fault)
    (other : Script) (argument : Bytes) :
    plan around launcher mode other argument = .error fault :=
  plan_fails_exact.mpr (plan_fails_exact.mp failed)

end

theorem Shows.plain {around : Surroundings σ} {launcher : LauncherSettings} {mode : Mode}
    {script : Script} {filename : Bytes} {inv : Invocation}
    (shows_ : Shows around launcher script filename mode inv) :
    inv.filename = filename ∧ inv.dir = around.workDir := by
  cases shows_ <;> exact ⟨rfl,rfl⟩

section

variable {around : Surroundings σ} {request : Request} {state : σ} {filename : Bytes}
  {settings : Settings} {mode : Mode}

theorem Ready.unique (ready : Ready around request state filename settings mode)
    {otherName : Bytes} {other : Settings} {otherMode : Mode}
    (again : Ready around request state otherName other otherMode) :
    otherName = filename ∧ other = settings ∧ otherMode = mode := by
  have argument := ready.single.symm.trans again.single
  have loaded := ready.loaded.symm.trans again.loaded
  cases argument
  cases loaded
  have checked := ready.checked.symm.trans again.checked
  cases checked
  exact ⟨rfl,rfl,rfl⟩

-- What can still stop a launch that is ready: a plan that no script would save, and variables that
-- cannot be read.
theorem ready_fails (ready : Ready around request state filename settings mode) (fault : Fault) :
    (execute around request state).1 = .error fault ↔
      (∀ script, plan around (effective settings request) mode script filename = .error fault) ∨
      request.dryRun = false ∧ Stranded around request state fault := by
  constructor
  · intro failed
    obtain ⟨result,p,course⟩ := course_exists around request state
    rw [execute_complete course] at failed
    subst failed
    cases course with
    | misused wrong =>
      rw [ready.single] at wrong
      cases wrong
    | unloaded single lost =>
      rw [ready.loaded] at lost
      cases lost
    | rejected single loaded refused =>
      have same := ready.loaded.symm.trans loaded
      cases same
      rw [ready.checked] at refused
      cases refused
    | unplanned again lost =>
      obtain ⟨rfl,rfl,rfl⟩ := ready.unique again
      exact .inl fun script => plan_fails lost script _
    | unequipped again decided real lost =>
      obtain ⟨named,unread⟩ := withVariables_fails.mp (congrArg Prod.fst lost)
      exact .inr ⟨real,.intro again decided named unread⟩
  · rintro (lost | ⟨real,stranded⟩)
    · rw [execute_complete (.unplanned ready (lost _))]
    · have spelled : request.real = request := by
        cases request
        cases real
        rfl
      rw [← spelled] at stranded ⊢
      exact stranded.real

end

end Launch

end ScriptLauncher
