import ScriptLauncher.Proofs.Course

namespace ScriptLauncher.Launch

variable {σ : Type}

-- Settings for the child's environment touch nothing else of its command.
theorem withVariables_command {around : Surroundings σ} {launcher : LauncherSettings}
    {cmd given : Command} {p after : Progress σ}
    (equipped : withVariables around launcher cmd p = (.ok given,after)) :
    ∃ env, given = { cmd with env } ∧ (launcher.envFile = [] → env = cmd.env) := by
  unfold withVariables at equipped
  split at equipped
  · cases equipped
    exact ⟨_,rfl,fun _ => rfl⟩
  · rename_i named
    simp only [Prod.mk.injEq] at equipped
    cases vars : around.vars p.state (envPath around.workDir launcher.envFile) with
    | error fault => simp [vars,Except.map] at equipped
    | ok found =>
      simp only [vars,Except.map,Except.ok.injEq] at equipped
      obtain ⟨rfl,-⟩ := equipped
      exact ⟨_,rfl,fun none_ => by simp [none_] at named⟩

theorem execWords_parts {rules : LineRules} {launcher : LauncherSettings} {script : Script}
    {filename : Bytes} {words : List Bytes}
    (read : execWords rules launcher script filename = .ok words) :
    ∃ program args, rules.split launcher.interpreter = .ok (program :: args) ∧
      words = program :: args ++ [script.path,filename] := by
  unfold execWords at read
  cases split_ : rules.split launcher.interpreter with
  | error fault => simp [split_] at read
  | ok interpreter =>
    cases interpreter with
    | nil => simp [split_] at read
    | cons program args =>
      simp only [split_,Except.ok.injEq] at read
      exact ⟨program,args,rfl,read.symm⟩

-- The two plans that there are.
theorem plan_cases {around : Surroundings σ} {launcher : LauncherSettings} {mode : Mode}
    {script : Script} {filename : Bytes} {inv : Invocation}
    (decided : plan around launcher mode script filename = .ok inv) :
    inv = ⟨around.runId,filename,
      shellLine around.rules around.plainShell launcher script filename,around.workDir,.shell,none⟩ ∨
    ∃ words, execWords around.rules launcher script filename = .ok words ∧
      inv = ⟨around.runId,filename,around.rules.join words,around.workDir,.exec,some words⟩ := by
  cases mode with
  | shell =>
    cases decided
    exact .inl rfl
  | exec =>
    simp only [plan] at decided
    cases read : execWords around.rules launcher script filename with
    | error fault => simp [read,Except.map] at decided
    | ok words =>
      simp only [read,Except.map,Except.ok.injEq] at decided
      exact .inr ⟨words,rfl,decided.symm⟩

-- Only words that are handed over as they are can be without a plan.
theorem plan_fails_exact {around : Surroundings σ} {launcher : LauncherSettings} {mode : Mode}
    {script : Script} {filename : Bytes} {fault : Fault} :
    plan around launcher mode script filename = .error fault ↔ mode = .exec ∧
      ((∃ inner, around.rules.split launcher.interpreter = .error inner ∧
          fault = .context (text "parse interpreter: ") inner) ∨
        around.rules.split launcher.interpreter = .ok [] ∧ fault = .of .emptyCommand) := by
  cases mode with
  | shell => simp [plan]
  | exec =>
    cases read : around.rules.split launcher.interpreter with
    | error inner => simp [plan,execWords,read,Except.map,eq_comm]
    | ok words => cases words <;> simp [plan,execWords,read,Except.map,eq_comm]

-- How a plan ties the line that is shown to the command that is run.
inductive Binds (rules : LineRules) (shell : Bytes) (inv : Invocation) : Command → Prop where
  | shell (mode : inv.mode = .shell) (env : Option (List Bytes)) :
      Binds rules shell inv
        ⟨if shell.isEmpty then text "sh" else shell,[text "-c",inv.commandLine],inv.dir,env⟩
  | exec (mode : inv.mode = .exec) (argv : inv.argv = some (program :: args))
      (line : inv.commandLine = rules.join (program :: args)) (env : Option (List Bytes)) :
      Binds rules shell inv ⟨program,args,inv.dir,env⟩

theorem plan_binds {around : Surroundings σ} {launcher : LauncherSettings} {mode : Mode}
    {script : Script} {filename : Bytes} {inv : Invocation}
    (decided : plan around launcher mode script filename = .ok inv) (env : Option (List Bytes)) :
    inv.dir = around.workDir ∧
      Binds around.rules launcher.shell inv { command launcher inv with env } := by
  cases mode with
  | shell =>
    simp only [plan,Except.ok.injEq] at decided
    subst decided
    exact ⟨rfl,.shell rfl env⟩
  | exec =>
    simp only [plan] at decided
    cases read : execWords around.rules launcher script filename with
    | error fault => simp [read,Except.map] at decided
    | ok words =>
      obtain ⟨program,args,-,rfl⟩ := execWords_parts read
      simp only [read,Except.map,Except.ok.injEq] at decided
      subst decided
      exact ⟨rfl,.exec rfl rfl rfl env⟩

theorem equipped_binds {around : Surroundings σ} {request : Request} {state : σ} {filename : Bytes}
    {settings : Settings} {mode : Mode} {inv : Invocation} {cmd : Command} {after : Progress σ}
    (decided : planned around request state filename settings mode = .ok inv)
    (given : equipped around request state settings inv = (.ok cmd,after)) :
    inv.dir = around.workDir ∧ Binds around.rules settings.launcher.shell inv cmd := by
  obtain ⟨env,rfl,-⟩ := withVariables_command given
  exact plan_binds decided env

theorem Binds.dir {rules : LineRules} {shell : Bytes} {inv : Invocation} {cmd : Command}
    (binds : Binds rules shell inv cmd) : cmd.dir = inv.dir := by
  cases binds <;> rfl

end ScriptLauncher.Launch
