import ScriptLauncher.Proofs.Absolute
import ScriptLauncher.Proofs.ExitCode
import ScriptLauncher.Proofs.Lengthening
import ScriptLauncher.Proofs.Reads
import ScriptLauncher.Proofs.Script

namespace ScriptLauncher

theorem Variables.get?_unset {name other : Bytes} (different : name ≠ other) (vars : Variables) :
    (vars.unset other).get? name = vars.get? name := by
  unfold Variables.unset Variables.get?
  rw [List.find?_filter]
  congr 2
  funext entry
  by_cases here : entry.1 = name
  · simp [here,different]
  · simp [here]

namespace Environment

-- An environment without its entries for a name.
def without (name : Bytes) (entries : List Bytes) : List Bytes :=
  entries.filter fun entry => (assignment entry).1 != name

theorem without_append (name : Bytes) (front back : List Bytes) :
    without name (front ++ back) = without name front ++ without name back :=
  List.filter_append ..

end Environment

-- A command but for what its environment says about the level of the log.
def Command.unlevelled (cmd : Command) : Command :=
  { cmd with env := cmd.env.map (Environment.without Variable.logLevel) }

-- Options with the level that a host asks for.
def Options.levelled (options : Options) (host : Host) : Options :=
  { options with logLevel := host.getenv Variable.logLevel }

-- A host that differs from another one at most in the level of the log, and has a level that is known.
structure Relevelled (base host : Host) : Prop where
  files : host.files = base.files
  cwd : host.cwd = base.cwd
  vars : host.vars.unset Variable.logLevel = base.vars.unset Variable.logLevel
  known : Log.Level.check (host.getenv Variable.logLevel) = .ok ()

namespace Relevelled

theorem refl {host : Host} (known : Log.Level.check (host.getenv Variable.logLevel) = .ok ()) :
    Relevelled host host := ⟨rfl,rfl,rfl,known⟩

section

variable {base host : Host} (relevelled : Relevelled base host)

include relevelled

theorem get? {name : Bytes} (different : name ≠ Variable.logLevel) :
    host.vars.get? name = base.vars.get? name := by
  rw [← Variables.get?_unset different,relevelled.vars,Variables.get?_unset different]

theorem getenv {name : Bytes} (different : name ≠ Variable.logLevel) :
    host.getenv name = base.getenv name := by
  unfold Host.getenv Variables.value
  rw [relevelled.get? different]

theorem switch {name : Bytes} (different : name ≠ Variable.logLevel) :
    Options.switch host.vars.get? name = Options.switch base.vars.get? name := by
  unfold Options.switch
  rw [relevelled.get? different]

theorem userDir {name : Bytes} (different : name ≠ Variable.logLevel) (below : List Bytes) :
    Settings.userDir host name below = Settings.userDir base name below := by
  unfold Settings.userDir
  rw [relevelled.getenv different,relevelled.getenv (by decide : text "HOME" ≠ Variable.logLevel)]

theorem defaultGlobalDir : Settings.defaultGlobalDir host = Settings.defaultGlobalDir base := by
  unfold Settings.defaultGlobalDir
  rw [relevelled.userDir (by decide)]

theorem defaultStateDir : Log.defaultStateDir host = Log.defaultStateDir base := by
  unfold Log.defaultStateDir
  rw [relevelled.userDir (by decide)]

theorem workingDirectory : host.workingDirectory = base.workingDirectory := by
  have spelled := relevelled.get? (by decide : text "PWD" ≠ Variable.logLevel)
  simp only [Host.workingDirectory,Variables.value,relevelled.cwd,relevelled.files,spelled]

theorem sources (options : Options) (workDir : Bytes) :
    Program.sources (options.levelled host) workDir host =
      Program.sources options workDir base := by
  unfold Program.sources
  rw [relevelled.defaultGlobalDir]
  rfl

-- The entries of an inherited environment, but for the level.
theorem assignments : Environment.without Variable.logLevel host.vars.assignments =
    Environment.without Variable.logLevel base.vars.assignments := by
  have unset (vars : Variables) : Environment.without Variable.logLevel vars.assignments =
      Environment.without Variable.logLevel (vars.unset Variable.logLevel).assignments := by
    unfold Environment.without Variables.assignments Variables.unset
    rw [List.filter_map,List.filter_map,List.filter_filter]
    congr 2
    funext entry
    obtain ⟨name,value⟩ := entry
    by_cases level : name = Variable.logLevel
    · subst level
      rfl
    · simp [level]
  rw [unset,relevelled.vars,← unset]

end

end Relevelled

theorem Options.ofEnvironment_relevelled {base host : Host} (relevelled : Relevelled base host) :
    ofEnvironment host.vars.get? =
      (ofEnvironment base.vars.get?).map (·.levelled host) := by
  simp only [ofEnvironment,names_exact]
  rw [relevelled.switch (by decide : Variable.dryRun ≠ Variable.logLevel),
    relevelled.switch (by decide : Variable.noShell ≠ Variable.logLevel),
    relevelled.switch (by decide : Variable.propagateExitCode ≠ Variable.logLevel),
    relevelled.get? (by decide : Variable.config ≠ Variable.logLevel)]
  cases switch base.vars.get? Variable.dryRun with
  | error fault => rfl
  | ok dryRun =>
    cases switch base.vars.get? Variable.noShell with
    | error fault => rfl
    | ok noShell =>
      cases switch base.vars.get? Variable.propagateExitCode with
      | error fault => rfl
      | ok propagateExitCode => rfl

-- A command with its environment, where the same variables are read and the same is inherited but for
-- the level.
theorem Launch.withVariables_unlevelled {σ : Type} {one other : Surroundings σ}
    {launcher : LauncherSettings} {p q : Progress σ}
    (same : launcher.envFile ≠ [] → other.vars q.state (envPath other.workDir launcher.envFile) =
      one.vars p.state (envPath one.workDir launcher.envFile))
    (inherited : Environment.without Variable.logLevel other.environ =
      Environment.without Variable.logLevel one.environ) (cmd : Command) :
    (withVariables other launcher cmd q).1.map Command.unlevelled =
      (withVariables one launcher cmd p).1.map Command.unlevelled := by
  unfold withVariables
  by_cases named : launcher.envFile = []
  · rw [named]
    rfl
  · have some_ : launcher.envFile.isEmpty ≠ true := by simpa using named
    rw [if_neg some_,if_neg some_]
    dsimp only
    rw [same named]
    cases one.vars p.state (envPath one.workDir launcher.envFile) with
    | error fault => rfl
    | ok vars =>
      simp [Except.map,Command.unlevelled,Environment.merge,Environment.without_append,inherited]

namespace Program
open Launch

-- Checks before a launch come out the same, with the other level in the options.
theorem prepare_relevelled {base host : Host} (relevelled : Relevelled base host)
    (known : Log.Level.check (base.getenv Variable.logLevel) = .ok ()) (args : List Bytes) :
    prepare args host = (prepare args base).map fun (options,workDir) =>
      (options.levelled host,workDir) := by
  unfold prepare
  rw [Options.ofEnvironment_relevelled relevelled,relevelled.workingDirectory]
  cases singleArgument args with
  | error fault => rfl
  | ok filename =>
    cases read : Options.ofEnvironment base.vars.get? with
    | error fault => rfl
    | ok options =>
      have level : options.logLevel = base.getenv Variable.logLevel :=
        (Options.ofEnvironment_parts read).2.2.2.2
      cases base.workingDirectory with
      | error fault => rfl
      | ok workDir => simp [Except.map,level,known,Options.levelled,relevelled.known]

-- Every path at which a run opens a file before it comes to a command, if it gets that far.
inductive Opens (setup : Setup) (argv : List Bytes) (host : Host) : Bytes → Prop where
  | consulted (consults : Consults setup argv host path) : Opens setup argv host path
  | worktree (enters : Enters setup argv host options workDir settings mode)
      (wanting : Wanting (around setup options workDir host) (idle host).state
        (effective settings (request options (argv.drop 1))))
      (opens : Worktree.Opens host workDir path) : Opens setup argv host path

-- A log that is there, if there is a place for one, and that is no file a run opens.
structure LogStands (setup : Setup) (argv : List Bytes) (host : Host) (f : File) : Prop where
  there : Log.defaultStateDir host ≠ [] →
    host.stat (Log.path (Log.defaultStateDir host)) = .ok (.file f)
  other : ∀ path, Opens setup argv host path →
    Host.Other (Log.defaultStateDir host) f.id host path

-- A machine of a run on a host, whose log has at most grown.
def Lengthens (base : Host) (f : File) (host : Host) (m : Machine) : Prop :=
  Log.Lengthens (Log.defaultStateDir base) f base host.vars m.logger m.host

section

variable {setup : Setup} {argv : List Bytes} {base host : Host} {f : File}
  (relevelled : Relevelled base host) (stands : LogStands setup argv base f)

include relevelled stands

theorem started_lengthens (options : Options) (workDir : Bytes) :
    Lengthens base f host (started setup options workDir host) := by
  refine Log.record_lengthens stands.there ⟨relevelled.defaultStateDir,?_,?_,rfl⟩ setup.clock
    (versionEntry setup)
  · intro id held
    cases held
  · exact ⟨relevelled.cwd,.inl relevelled.files⟩

theorem account_lengthens {options : Options} {workDir : Bytes} {p : Progress Machine}
    {output warning : Bytes} (account : Account (around setup options workDir host)
      (started setup options workDir host) p output warning []) :
    Lengthens base f host p.state :=
  account.keeps (Lengthens base f host)
    (fun entry _ lengthens => Log.record_lengthens stands.there lengthens setup.clock entry)
    (started_lengthens relevelled stands options workDir)

end

section

variable {setup : Setup} {argv : List Bytes} {base host : Host} {f : File} {options : Options}
  {workDir : Bytes} {settings : Settings} {mode : Mode} {m : Machine}

-- What a launch asks of the machine is answered as on the host it compares to.

theorem settings_transparent (relevelled : Relevelled base host)
    (stands : LogStands setup argv base f) (lengthens : Lengthens base f host m)
    (prepared : prepare (argv.drop 1) base = .ok (options,workDir)) :
    (around setup (options.levelled host) workDir host).settings m =
      Settings.load setup.decoders (sources options workDir base) base := by
  have same : Settings.load setup.decoders (sources options workDir base) m.host =
      Settings.load setup.decoders (sources options workDir base) base :=
    Settings.load_congr fun path listed =>
      lengthens.lengthened.read (stands.other path (.consulted (.settings prepared listed)))
  rw [← same,← relevelled.sources options workDir]
  rfl

theorem isFile_transparent (lengthens : Lengthens base f host m) (path : Bytes) :
    (around setup options workDir host).isFile m path = base.isFile path :=
  lengthens.lengthened.isFile path

theorem wanting_transparent (lengthens : Lengthens base f host m) {launcher : LauncherSettings}
    (wanting : Wanting (around setup (options.levelled host) workDir host) m launcher) :
    Wanting (around setup options workDir base) (idle base).state launcher :=
  ⟨wanting.on,wanting.relative,(isFile_transparent lengthens _).symm.trans wanting.missing⟩

theorem worktree_transparent (stands : LogStands setup argv base f)
    (lengthens : Lengthens base f host m)
    (enters : Enters setup argv base options workDir settings mode)
    (wanting : Wanting (around setup options workDir base) (idle base).state
      (effective settings (request options (argv.drop 1)))) :
    (around setup (options.levelled host) workDir host).worktree m workDir =
      Worktree.root base workDir := by
  obtain ⟨-,-,-,here,-⟩ := prepare_exact.mp enters.prepared
  exact Worktree.root_lengthened lengthens.lengthened (Host.workingDirectory_absolute here)
    fun path opens => stands.other path (.worktree enters wanting opens)

theorem locates_transparent (stands : LogStands setup argv base f)
    (lengthens : Lengthens base f host m)
    (enters : Enters setup argv base options workDir settings mode) {script : Script}
    (locates : Locates (around setup (options.levelled host) workDir host) m
      (effective settings (request options (argv.drop 1))) script) :
    Locates (around setup options workDir base) (idle base).state
      (effective settings (request options (argv.drop 1))) script := by
  cases locates with
  | found stood =>
    have wanting := wanting_transparent lengthens stood.wanting
    refine .found ⟨wanting,?_,(isFile_transparent lengthens _).symm.trans stood.there⟩
    exact (worktree_transparent stands lengthens enters wanting).symm.trans stood.inside
  | kept nowhere =>
    refine .kept fun root stood => nowhere root ⟨?_,?_,?_⟩
    · exact ⟨stood.wanting.on,stood.wanting.relative,
        (isFile_transparent lengthens _).trans stood.wanting.missing⟩
    · exact (worktree_transparent stands lengthens enters stood.wanting).trans stood.inside
    · exact (isFile_transparent lengthens _).trans stood.there

theorem vars_transparent (stands : LogStands setup argv base f)
    (lengthens : Lengthens base f host m)
    (enters : Enters setup argv base options workDir settings mode) {script : Script}
    {filename : Bytes} {inv : Invocation} (decided : plan (around setup options workDir base)
      (effective settings (request options (argv.drop 1))) mode script filename = .ok inv)
    (real : options.dryRun = false) (named : settings.launcher.envFile ≠ []) :
    (around setup (options.levelled host) workDir host).vars m
        (envPath workDir settings.launcher.envFile) =
      Dotenv.load base (envPath workDir settings.launcher.envFile) :=
  Dotenv.load_congr (lengthens.lengthened.read
    (stands.other _ (.consulted (.envFile enters decided real named))))

end

section

variable {setup : Setup} {argv : List Bytes} {base host : Host} {f : File} {options : Options}
  {workDir filename : Bytes} {settings : Settings} {mode : Mode}
  (relevelled : Relevelled base host) (stands : LogStands setup argv base f)
  (enters : Enters setup argv base options workDir settings mode)

include relevelled stands enters

theorem located_transparent :
    Locates (around setup options workDir base) (idle base).state
      (effective settings (request options (argv.drop 1)))
      (located (around setup (options.levelled host) workDir host)
        (request options (argv.drop 1))
        (started setup (options.levelled host) workDir host) settings).1 :=
  locates_transparent stands
    (started_lengthens relevelled stands (options.levelled host) workDir) enters
    (locateScript_locates _ _ (warned _ settings))

theorem planned_transparent {script : Script}
    (locates : Locates (around setup options workDir base) (idle base).state
      (effective settings (request options (argv.drop 1))) script) :
    planned (around setup (options.levelled host) workDir host)
        (request options (argv.drop 1))
        (started setup (options.levelled host) workDir host) filename settings mode =
      plan (around setup options workDir base)
        (effective settings (request options (argv.drop 1))) mode script filename := by
  unfold planned
  rw [(located_transparent relevelled stands enters).unique locates]
  cases mode <;> rfl

theorem equipped_transparent {script : Script} {inv : Invocation}
    (decided : plan (around setup options workDir base)
      (effective settings (request options (argv.drop 1))) mode script filename = .ok inv)
    (real : options.dryRun = false) :
    (equipped (around setup (options.levelled host) workDir host)
        (request options (argv.drop 1))
        (started setup (options.levelled host) workDir host) settings inv).1.map
        Command.unlevelled =
      (withVariables (around setup options workDir base)
        (effective settings (request options (argv.drop 1)))
        (command (effective settings (request options (argv.drop 1))) inv) (idle base)).1.map
        Command.unlevelled := by
  have searched := account_lengthens relevelled stands (account_located
    (around setup (options.levelled host) workDir host) (request options (argv.drop 1))
    (started setup (options.levelled host) workDir host) settings)
  exact withVariables_unlevelled
    (fun named => vars_transparent stands searched enters decided real named)
    relevelled.assignments _

end

-- Two runs that show the same of their own and start the same, up to the level in an environment.
structure Parallel (one two : Outcome) : Prop where
  output : two.ending.output = one.ending.output
  errors : two.ending.errors = one.ending.errors
  commands : two.commands.map Command.unlevelled = one.commands.map Command.unlevelled

-- And that end with the same code after the same has been seen of their children.
structure Indistinct (one two : Outcome) : Prop extends Parallel one two where
  code : two.ending.code = one.ending.code
  childOutput : two.childOutput = one.childOutput
  childErrors : two.childErrors = one.childErrors

-- Children that go neither by the level nor by the log. Both may reach them without the launcher, in
-- an environment they inherit and on the host.
def Deaf (execute : Command → Host → Execution) (f : File) (one two : Host) : Prop :=
  ∀ cmd other here there, other.unlevelled = cmd.unlevelled →
    Host.Lengthened (Log.defaultStateDir one) f.id one here → here.vars = one.vars →
    Host.Lengthened (Log.defaultStateDir one) f.id one there → there.vars = two.vars →
    exitCodeOf (execute other there).result = exitCodeOf (execute cmd here).result ∧
      (execute other there).output = (execute cmd here).output ∧
      (execute other there).errors = (execute cmd here).errors

-- An executor with a fixed result, whatever it is given and wherever.
def Fixed (execute : Command → Host → Execution) : Prop :=
  ∃ result output errors, ∀ cmd host, let done := execute cmd host
    done.result = result ∧ done.output = output ∧ done.errors = errors

theorem Fixed.deaf {execute : Command → Host → Execution} (fixed : Fixed execute) (f : File)
    (one two : Host) : Deaf execute f one two := by
  obtain ⟨result,output,errors,always⟩ := fixed
  intro cmd other here there _ _ _ _ _
  obtain ⟨code,written,complained⟩ := always other there
  obtain ⟨code_,written_,complained_⟩ := always cmd here
  rw [code,written,complained,code_,written_,complained_]
  exact ⟨rfl,rfl,rfl⟩

-- What a run comes to whatever its level: an end without a command, or a command and whether its end
-- decides the code.
inductive Verdict where
  | idle (result : Option Fault) (output shown : Bytes)
  | child (propagates : Bool) (shown : Bytes) (cmd : Command)

-- A run that is to end as its child does.
inductive Follows (setup : Setup) (argv : List Bytes) (host : Host) : Prop where
  | intro (enters : Enters setup argv host options workDir settings mode)
      (propagates : Propagates host settings) : Follows setup argv host

-- An outcome with a verdict. A child finds a host on which at most the log has grown.
inductive Comes (setup : Setup) (argv : List Bytes) (base : Host) (f : File) (host : Host) :
    Verdict → Outcome → Prop where
  | idle (result : Option Fault) (output shown : Bytes) (after : Host) :
      Comes setup argv base f host (.idle result output shown)
        { ending :=
            let ended := ending result (argv.headD (text "orion")) setup.colored
            ⟨ended.code,output ++ ended.output,shown ++ ended.errors⟩
          commands := [],host := after,childOutput := [],childErrors := [] }
  | child (same : other.unlevelled = Command.unlevelled cmd)
      (lengthened : Host.Lengthened (Log.defaultStateDir base) f.id base now)
      (vars : now.vars = host.vars) (propagates : Bool)
      (follows : propagates = true → Follows setup argv base) (shown : Bytes) (after : Host) :
      Comes setup argv base f host (.child propagates shown cmd)
        { ending := ⟨if propagates then exitCodeOf (setup.execute other now).result else 0,[],shown⟩
          commands := [other],host := after,childOutput := (setup.execute other now).output
          childErrors := (setup.execute other now).errors }

section

variable {setup : Setup} {argv : List Bytes} {base : Host} {f : File}

theorem unprepared_comes {host : Host} {fault : Fault}
    (failed : prepare (argv.drop 1) host = .error fault) :
    Comes setup argv base f host (.idle (some fault) [] []) (run setup argv host) := by
  rw [run_concluded (perform_failed setup failed)]
  exact .idle _ _ _ _

theorem idle_comes {host : Host} {options : Options} {workDir : Bytes} {result : Option Fault}
    {p : Progress Machine} {output warning : Bytes}
    (prepared : prepare (argv.drop 1) host = .ok (options,workDir))
    (launched : launch setup options (argv.drop 1) workDir host = (result,p))
    (account : Account (around setup options workDir host) (started setup options workDir host) p
      output warning []) :
    Comes setup argv base f host (.idle result output warning) (run setup argv host) := by
  rw [run_concluded ((perform_launched setup prepared).trans launched),concluded_idle account]
  exact .idle _ _ _ _

variable {options : Options} {workDir filename : Bytes} {settings : Settings} {mode : Mode}
  (stands : LogStands setup argv base f)
  (prepared : ∀ host, Relevelled base host →
    prepare (argv.drop 1) host = .ok (options.levelled host,workDir))
  (enters : Enters setup argv base options workDir settings mode)

include prepared

-- Variables that cannot be read come out the same on every host.
theorem stranded_comes {host : Host} (relevelled : Relevelled base host) {inv : Invocation}
    {fault : Fault}
    (ready : Ready (around setup (options.levelled host) workDir host)
      (request options (argv.drop 1)) (started setup (options.levelled host) workDir host) filename
      settings mode)
    (decided : planned (around setup (options.levelled host) workDir host)
      (request options (argv.drop 1)) (started setup (options.levelled host) workDir host) filename
      settings mode = .ok inv)
    (real : options.dryRun = false)
    (lost : (equipped (around setup (options.levelled host) workDir host)
      (request options (argv.drop 1)) (started setup (options.levelled host) workDir host) settings
      inv).1.map Command.unlevelled = (Except.error fault).map Command.unlevelled) :
    Comes setup argv base f host (.idle (some fault) [] (warningLines settings))
      (run setup argv host) := by
  cases equips : equipped (around setup (options.levelled host) workDir host)
      (request options (argv.drop 1)) (started setup (options.levelled host) workDir host) settings
      inv with
  | mk outcome after =>
    rw [equips] at lost
    cases outcome with
    | ok cmd => cases lost
    | error other =>
      cases lost
      exact idle_comes (prepared host relevelled)
        (launch_failed (.unequipped ready decided real equips)) (account_equipped equips)

include stands enters

-- The command is the same on every host, but for the level that its environment may inherit.
theorem child_comes {host : Host} (relevelled : Relevelled base host) {inv : Invocation}
    {cmd : Command}
    (ready : Ready (around setup (options.levelled host) workDir host)
      (request options (argv.drop 1)) (started setup (options.levelled host) workDir host) filename
      settings mode)
    (decided : planned (around setup (options.levelled host) workDir host)
      (request options (argv.drop 1)) (started setup (options.levelled host) workDir host) filename
      settings mode = .ok inv)
    (real : options.dryRun = false)
    (given : (equipped (around setup (options.levelled host) workDir host)
      (request options (argv.drop 1)) (started setup (options.levelled host) workDir host) settings
      inv).1.map Command.unlevelled = (Except.ok cmd).map Command.unlevelled) :
    Comes setup argv base f host
      (.child (settings.launcher.propagateExitCode || options.propagateExitCode)
        (warningLines settings) cmd) (run setup argv host) := by
  cases equips : equipped (around setup (options.levelled host) workDir host)
      (request options (argv.drop 1)) (started setup (options.levelled host) workDir host) settings
      inv with
  | mk outcome after =>
    rw [equips] at given
    cases outcome with
    | error fault => cases given
    | ok other =>
      have same : other.unlevelled = cmd.unlevelled := Except.ok.inj given
      have before := account_lengthens relevelled stands (account_equipped equips)
      have announced := Log.record_lengthens stands.there before setup.clock (dispatchEntry inv)
      obtain ⟨-,-,read,-,-⟩ := prepare_exact.mp enters.prepared
      rw [run_dispatched (prepared host relevelled) ready decided real equips]
      exact .child same announced.lengthened announced.vars _
        (fun asked => .intro enters ((propagates_exact settings read).mp asked)) _ _

-- A launch that has found its settings and its mode, for any level.
theorem ready_verdict (single : argv.drop 1 = [filename]) :
    ∃ verdict, ∀ host, Relevelled base host →
      Comes setup argv base f host verdict (run setup argv host) := by
  have locates := locateScript_locates (around setup options workDir base)
    (effective settings (request options (argv.drop 1))) (idle base)
  generalize (locateScript (around setup options workDir base)
    (effective settings (request options (argv.drop 1))) (idle base)).1 = script at locates
  have ready (host : Host) (relevelled : Relevelled base host) :
      Ready (around setup (options.levelled host) workDir host) (request options (argv.drop 1))
        (started setup (options.levelled host) workDir host) filename settings mode :=
    ⟨single,(settings_transparent relevelled stands (started_lengthens relevelled stands _ _)
      enters.prepared).trans enters.loaded,enters.checked⟩
  cases decided : plan (around setup options workDir base)
      (effective settings (request options (argv.drop 1))) mode script filename with
  | error fault =>
    refine ⟨.idle (some fault) [] (warningLines settings),fun host relevelled => ?_⟩
    have failed := (planned_transparent relevelled stands enters locates).trans decided
    exact idle_comes (prepared host relevelled)
      (launch_failed (.unplanned (ready host relevelled) failed)) (account_located ..)
  | ok inv =>
    have plans (host : Host) (relevelled : Relevelled base host) :=
      (planned_transparent relevelled stands enters locates).trans decided
    cases dry : options.dryRun with
    | true =>
      refine ⟨.idle none (inv.commandLine ++ text "\n") (warningLines settings),
        fun host relevelled => ?_⟩
      exact idle_comes (prepared host relevelled)
        (launch_reported (.previewed (ready host relevelled) (plans host relevelled) dry))
        (account_previewed ..)
    | false =>
      have equips (host : Host) (relevelled : Relevelled base host) :=
        equipped_transparent relevelled stands enters decided dry
      generalize (withVariables (around setup options workDir base)
        (effective settings (request options (argv.drop 1)))
        (command (effective settings (request options (argv.drop 1))) inv) (idle base)).1 =
        given at equips
      cases given with
      | ok cmd =>
        exact ⟨_,fun host relevelled => child_comes stands prepared enters relevelled
          (ready host relevelled) (plans host relevelled) dry (equips host relevelled)⟩
      | error fault =>
        exact ⟨_,fun host relevelled => stranded_comes prepared relevelled
          (ready host relevelled) (plans host relevelled) dry (equips host relevelled)⟩

end

-- All levels that are known come to one verdict.
theorem verdict_exists {setup : Setup} {argv : List Bytes} {base : Host} {f : File}
    (known : Log.Level.check (base.getenv Variable.logLevel) = .ok ())
    (stands : LogStands setup argv base f) :
    ∃ verdict, ∀ host, Relevelled base host →
      Comes setup argv base f host verdict (run setup argv host) := by
  cases checked : prepare (argv.drop 1) base with
  | error fault =>
    refine ⟨.idle (some fault) [] [],fun host relevelled => unprepared_comes ?_⟩
    rw [prepare_relevelled relevelled known,checked]
    rfl
  | ok found =>
    obtain ⟨options,workDir⟩ := found
    obtain ⟨filename,single,-⟩ := prepare_exact.mp checked
    have prepared (host : Host) (relevelled : Relevelled base host) :
        prepare (argv.drop 1) host = .ok (options.levelled host,workDir) := by
      rw [prepare_relevelled relevelled known,checked]
      rfl
    have loads (host : Host) (relevelled : Relevelled base host) :=
      settings_transparent relevelled stands
        (started_lengthens relevelled stands (options.levelled host) workDir) checked
    cases loaded : Settings.load setup.decoders (sources options workDir base) base with
    | error fault =>
      refine ⟨.idle (some (.context (text "load config: ") fault)) [] [],
        fun host relevelled => ?_⟩
      exact idle_comes (prepared host relevelled)
        (launch_failed (.unloaded single ((loads host relevelled).trans loaded)))
        (account_start ..)
    | ok settings =>
      cases mode : (effective settings (request options (argv.drop 1))).check with
      | error fault =>
        refine ⟨.idle (some fault) [] (warningLines settings),fun host relevelled => ?_⟩
        exact idle_comes (prepared host relevelled)
          (launch_failed (.rejected single ((loads host relevelled).trans loaded) mode))
          (account_warned ..)
      | ok mode => exact ready_verdict stands prepared ⟨checked,loaded,mode⟩ single

theorem Comes.parallel {setup : Setup} {argv : List Bytes} {base one two : Host} {f : File}
    {verdict : Verdict} {first second : Outcome} (here : Comes setup argv base f one verdict first)
    (there : Comes setup argv base f two verdict second) : Parallel first second := by
  cases here with
  | idle result output shown after =>
    cases there with
    | idle _ _ _ _ => exact ⟨rfl,rfl,rfl⟩
  | child same lengthened vars propagates follows shown after =>
    cases there with
    | child again longer others _ _ _ _ =>
      exact ⟨rfl,rfl,congrArg (fun cmd => [cmd]) (again.trans same.symm)⟩

-- A run that is not to end as its child does ends the same whatever its child does.
theorem Comes.code {setup : Setup} {argv : List Bytes} {base one two : Host} {f : File}
    {verdict : Verdict} {first second : Outcome} (here : Comes setup argv base f one verdict first)
    (there : Comes setup argv base f two verdict second) (own : ¬Follows setup argv base) :
    second.ending.code = first.ending.code := by
  cases here with
  | idle result output shown after =>
    cases there with
    | idle _ _ _ _ => rfl
  | child same lengthened vars propagates follows shown after =>
    cases there with
    | child again longer others _ _ _ _ =>
      cases propagates with
      | true => exact (own (follows rfl)).elim
      | false => rfl

theorem Comes.indistinct {setup : Setup} {argv : List Bytes} {one two : Host} {f : File}
    {verdict : Verdict} {first second : Outcome} (here : Comes setup argv one f one verdict first)
    (there : Comes setup argv one f two verdict second)
    (alike : first.commands = [] ∨ Deaf setup.execute f one two) : Indistinct first second := by
  have parallel := here.parallel there
  cases here with
  | idle result output shown after =>
    cases there with
    | idle _ _ _ _ => exact ⟨parallel,rfl,rfl,rfl⟩
  | child same lengthened vars propagates follows shown after =>
    cases there with
    | child again longer others _ _ _ _ =>
      rcases alike with none_ | deaf
      · cases none_
      · obtain ⟨code,output,errors⟩ :=
          deaf _ _ _ _ (again.trans same.symm) lengthened vars longer others
        exact ⟨parallel,by simp only [code],output,errors⟩

-- The level makes no difference but to the log and to what children inherit. Where the log is there
-- and is no file that the run opens, any two known levels show the same and start the same commands,
-- up to the level in an environment of their own. The code is the same unless it is to be the child's;
-- and all is the same where there is no child or the child does not mind, so with an executor whose
-- result is fixed it always is.
theorem log_level_is_transparent {setup : Setup} {argv : List Bytes} {one two : Host} {f : File}
    (known : Log.Level.check (one.getenv Variable.logLevel) = .ok ())
    (relevelled : Relevelled one two) (stands : LogStands setup argv one f) :
    Parallel (run setup argv one) (run setup argv two) ∧
      (¬Follows setup argv one →
        (run setup argv two).ending.code = (run setup argv one).ending.code) ∧
      ((run setup argv one).commands = [] ∨ Deaf setup.execute f one two →
        Indistinct (run setup argv one) (run setup argv two)) ∧
      (Fixed setup.execute → Indistinct (run setup argv one) (run setup argv two)) := by
  obtain ⟨verdict,comes⟩ := verdict_exists known stands
  have here := comes one (.refl known)
  have there := comes two relevelled
  exact ⟨here.parallel there,here.code there,here.indistinct there,
    fun fixed => here.indistinct there (.inr (fixed.deaf f one two))⟩

-- A child with variables of its own, on a host with a log.
def levelSetup : Setup where
  decoders := ⟨fun _ => .ok [(Settings.launcherSection,.table
    [(text "env_file",.text (text ".env"))])],fun _ => .error []⟩
  execute _ host := { result := some (.of (.childStatus 3)),host,output := text "done" }
  clock := ⟨2025,12,30,9,32,51⟩
  runId := text "run"

def levelHost (level : Bytes) : Host :=
  let logged := Host.put ⟨.empty,none,[]⟩ (text "/s/orion/logs/orion.log") (text "old\n") 0o640
  let equipped := (logged.put (text "/w/c.toml") [] 0o644).put (text "/w/.env") (text "A=1") 0o600
  { equipped.changeDirectory (text "/w") with
    vars := [(Variable.logLevel,level),(Variable.config,text "c.toml"),
      (Variable.propagateExitCode,text "1"),(text "XDG_STATE_HOME",text "/s")] }

def levelArgs : List Bytes := [text "orion",text "x"]

theorem levelHost_stands : LogStands levelSetup levelArgs (levelHost []) ⟨0,0o640,text "old\n"⟩ := by
  have prepared : prepare (levelArgs.drop 1) (levelHost []) =
      .ok ({ configPath := text "c.toml",propagateExitCode := true },text "/w") := by rfl
  obtain ⟨settings,loaded,file_,unsought⟩ : ∃ settings, Settings.load levelSetup.decoders
      (sources { configPath := text "c.toml",propagateExitCode := true } (text "/w") (levelHost []))
      (levelHost []) = .ok settings ∧ settings.launcher.envFile = text ".env" ∧
        settings.launcher.resolveEntryScript = false := ⟨_,by rfl,by rfl,by rfl⟩
  refine ⟨fun _ => by rfl,fun path opens _ file there => ?_⟩
  cases opens with
  | consulted consults =>
    cases consults with
    | settings again listed =>
      cases prepared.symm.trans again
      cases List.mem_singleton.mp listed
      cases (show (levelHost []).stat (text "c.toml") = .ok (.file ⟨1,0o644,[]⟩) by rfl).symm.trans
        there
      decide
    | envFile enters decided real named =>
      cases prepared.symm.trans enters.prepared
      cases loaded.symm.trans enters.loaded
      rw [file_] at there
      cases (show (levelHost []).stat (text "/w/.env") = .ok (.file ⟨2,0o600,text "A=1"⟩) by
        rfl).symm.trans there
      decide
  | worktree enters wanting opens =>
    cases prepared.symm.trans enters.prepared
    cases loaded.symm.trans enters.loaded
    cases unsought.symm.trans wanting.on

theorem debug_run_is_indistinct :
    Indistinct (run levelSetup levelArgs (levelHost []))
        (run levelSetup levelArgs (levelHost (text "debug"))) ∧
      (run levelSetup levelArgs (levelHost (text "debug"))).commands ≠
        (run levelSetup levelArgs (levelHost [])).commands := by
  have relevelled : Relevelled (levelHost []) (levelHost (text "debug")) :=
    ⟨rfl,rfl,by rfl,by rfl⟩
  have fixed : Fixed levelSetup.execute := ⟨_,_,_,fun _ _ => ⟨rfl,rfl,rfl⟩⟩
  obtain ⟨-,-,-,indistinct⟩ :=
    log_level_is_transparent (by rfl) relevelled levelHost_stands
  exact ⟨indistinct fixed,by decide +kernel⟩

end Program

end ScriptLauncher
