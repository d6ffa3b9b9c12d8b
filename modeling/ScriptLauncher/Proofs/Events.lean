import ScriptLauncher.Proofs.Course

namespace ScriptLauncher.Launch

variable {σ : Type}

-- What an event does to the outside. Showing, looking and reading change nothing there.
def Event.effect (around : Surroundings σ) (state : σ) : Event → σ
  | .logged entry => around.record entry state
  | .dispatched cmd => (around.run cmd state).2
  | _ => state

def replay (around : Surroundings σ) (state : σ) (events : List Event) : σ :=
  events.foldl (Event.effect around) state

-- A launch that goes on by these events. Its state is computed from them, so an executor or a log
-- that was used without an event could not be written in this form.
def Progress.play (around : Surroundings σ) (p : Progress σ) (events : List Event) : Progress σ :=
  ⟨replay around p.state events,p.events ++ events⟩

theorem play_append (around : Surroundings σ) (p : Progress σ) (before after : List Event) :
    p.play around (before ++ after) = (p.play around before).play around after := by
  simp [Progress.play,replay,List.append_assoc]

theorem play_nil (around : Surroundings σ) (p : Progress σ) : p.play around [] = p := by
  simp [Progress.play,replay]

theorem log_plays (around : Surroundings σ) (p : Progress σ) (entry : Log.Entry) :
    p.log around entry = p.play around [.logged entry] := rfl

theorem note_plays {around : Surroundings σ} (p : Progress σ) {event : Event}
    (idle : ∀ state, event.effect around state = state) :
    p.note event = p.play around [event] := by
  simp [Progress.note,Progress.play,replay,idle]

-- Where no command is run, only the log can change the outside.
theorem replay_keeps {around : Surroundings σ} {holds : σ → Prop}
    (record : ∀ entry state, holds state → holds (around.record entry state)) {state : σ}
    (start : holds state) {events : List Event} (none_ : Program.commands events = []) :
    holds (replay around state events) := by
  induction events generalizing state with
  | nil => exact start
  | cons event rest ih =>
    cases event with
    | dispatched cmd => simp [Program.commands] at none_
    | logged entry => exact ih (record entry state start) none_
    | output line => exact ih start none_
    | warning line => exact ih start none_
    | lookedUp dir => exact ih start none_
    | readVariables path => exact ih start none_

-- Events that neither show nor start anything; the quiet ones do not read variables either.
def Event.Silent : Event → Prop
  | .logged _ | .lookedUp _ | .readVariables _ => True
  | _ => False

def Event.Quiet : Event → Prop
  | .logged _ | .lookedUp _ => True
  | _ => False

theorem Event.Quiet.silent {event : Event} (quiet : event.Quiet) : event.Silent := by
  cases event <;> trivial

def lookupEntry (fault : Fault) : Log.Entry :=
  ⟨.debug,[],category,text "repository lookup failed: " ++ fault.message⟩

def resolvedEntry (path : Bytes) : Log.Entry :=
  ⟨.debug,[],category,text "entry script resolved to " ++ path⟩

-- Every way in which the entry script can be looked for. A script that is taken as it is needs no
-- look at the worktree.
inductive Search (around : Surroundings σ) (launcher : LauncherSettings) (state : σ) :
    List Event → Prop where
  | taken : Search around launcher state []
  | outside (lost : around.worktree state around.workDir = .error fault)
      (none_ : fault.isNotARepository = true) :
      Search around launcher state [.lookedUp around.workDir]
  | failed (lost : around.worktree state around.workDir = .error fault)
      (other : fault.isNotARepository = false) :
      Search around launcher state [.lookedUp around.workDir,.logged (lookupEntry fault)]
  | found (inside : around.worktree state around.workDir = .ok root)
      (there : around.isFile state (Path.join [root,launcher.entryScript]) = true) :
      Search around launcher state [.lookedUp around.workDir,
        .logged (resolvedEntry (Path.join [root,launcher.entryScript]))]
  | missing (inside : around.worktree state around.workDir = .ok root)
      (absent : around.isFile state (Path.join [root,launcher.entryScript]) = false) :
      Search around launcher state [.lookedUp around.workDir]

theorem locateScript_searches (around : Surroundings σ) (launcher : LauncherSettings)
    (p : Progress σ) : ∃ events, Search around launcher p.state events ∧
      (locateScript around launcher p).2 = p.play around events := by
  have idle : p = p.play around [] := (play_nil around p).symm
  have asked : p.note (.lookedUp around.workDir) = p.play around [.lookedUp around.workDir] :=
    note_plays p fun _ => rfl
  have told (entry : Log.Entry) : (p.note (.lookedUp around.workDir)).log around entry =
      p.play around ([.lookedUp around.workDir] ++ [.logged entry]) := by
    rw [play_append,← asked,log_plays]
  unfold locateScript
  split
  · unfold resolveScript
    split
    · exact ⟨_,.taken,idle⟩
    · dsimp only
      split
      · rename_i fault lost
        split
        · rename_i none_
          exact ⟨_,.outside lost none_,asked⟩
        · rename_i other
          exact ⟨_,.failed lost (eq_false_of_ne_true other),told _⟩
      · rename_i root inside
        split
        · rename_i there
          exact ⟨_,.found inside there,told _⟩
        · rename_i absent
          exact ⟨_,.missing inside (eq_false_of_ne_true absent),asked⟩
  · exact ⟨_,.taken,idle⟩

theorem Search.quiet {around : Surroundings σ} {launcher : LauncherSettings} {state : σ}
    {events : List Event} (search : Search around launcher state events) :
    ∀ event ∈ events, event.Quiet := by
  cases search <;> simp [Event.Quiet]

def readings (workDir : Bytes) (launcher : LauncherSettings) : List Event :=
  if launcher.envFile.isEmpty then [] else [.readVariables (envPath workDir launcher.envFile)]

theorem readings_silent (workDir : Bytes) (launcher : LauncherSettings) :
    ∀ event ∈ readings workDir launcher, event.Silent := by
  unfold readings
  split
  · simp
  · simp [Event.Silent]

theorem withVariables_plays (around : Surroundings σ) (launcher : LauncherSettings) (cmd : Command)
    (p : Progress σ) : (withVariables around launcher cmd p).2 =
      p.play around (readings around.workDir launcher) := by
  unfold withVariables readings
  split
  · exact (play_nil around p).symm
  · exact note_plays p fun _ => rfl

-- What the executor answered when a launch reached it.
def answer (around : Surroundings σ) (inv : Invocation) (cmd : Command) (p : Progress σ) :
    Option Fault :=
  (around.run cmd (p.log around (dispatchEntry inv)).state).1

def dispatchEvents (inv : Invocation) (cmd : Command) (result : Option Fault) : List Event :=
  [.logged (dispatchEntry inv),.dispatched cmd,.logged (outcomeEntry inv result)]

def previewEvents (inv : Invocation) : List Event :=
  [.logged (dryRunEntry inv),.output (inv.commandLine ++ text "\n")]

theorem preview_plays (around : Surroundings σ) (inv : Invocation) (p : Progress σ) :
    (p.log around (dryRunEntry inv)).note (.output (inv.commandLine ++ text "\n")) =
      p.play around (previewEvents inv) := by
  simp [previewEvents,Progress.note,Progress.log,Progress.play,replay,Event.effect]

theorem dispatch_plays (around : Surroundings σ) (launcher : LauncherSettings) (inv : Invocation)
    (cmd : Command) (p : Progress σ) : (dispatch around launcher inv cmd p).2 =
      p.play around (dispatchEvents inv cmd (answer around inv cmd p)) := by
  simp [dispatch,dispatchEvents,answer,Progress.play,Progress.log,replay,Event.effect]

def alerts (settings : Settings) : List Event :=
  settings.warnings.map fun warning => .warning (warningLine warning)

theorem replay_alerts (around : Surroundings σ) (state : σ) (settings : Settings) :
    replay around state (alerts settings) = state := by
  unfold alerts replay
  induction settings.warnings with
  | nil => rfl
  | cons warning rest ih => simpa [Event.effect] using ih

def start (state : σ) : Progress σ := ⟨state,[]⟩

theorem warned_plays (around : Surroundings σ) (state : σ) (settings : Settings) :
    warned state settings = (start state).play around (alerts settings) := by
  simp only [Progress.play,start,replay_alerts,List.nil_append]
  rfl

theorem located_searches (around : Surroundings σ) (request : Request) (state : σ)
    (settings : Settings) : ∃ events, Search around (effective settings request) state events ∧
      (located around request state settings).2 =
        (start state).play around (alerts settings ++ events) := by
  obtain ⟨events,search,played⟩ :=
    locateScript_searches around (effective settings request) (warned state settings)
  refine ⟨events,search,?_⟩
  rw [play_append,← warned_plays]
  exact played

theorem located_plays (around : Surroundings σ) (request : Request) (state : σ)
    (settings : Settings) : ∃ quiet, (∀ event ∈ quiet, event.Quiet) ∧
      (located around request state settings).2 =
        (start state).play around (alerts settings ++ quiet) := by
  obtain ⟨events,search,played⟩ := located_searches around request state settings
  exact ⟨events,search.quiet,played⟩

theorem equipped_searches (around : Surroundings σ) (request : Request) (state : σ)
    (settings : Settings) (inv : Invocation) :
    ∃ events, Search around (effective settings request) state events ∧
      (equipped around request state settings inv).2 = (start state).play around
        (alerts settings ++ (events ++ readings around.workDir (effective settings request))) := by
  obtain ⟨events,search,played⟩ := located_searches around request state settings
  refine ⟨events,search,?_⟩
  rw [equipped,withVariables_plays,played,← play_append,List.append_assoc]

theorem equipped_plays (around : Surroundings σ) (request : Request) (state : σ)
    (settings : Settings) (inv : Invocation) : ∃ silent, (∀ event ∈ silent, event.Silent) ∧
      (equipped around request state settings inv).2 =
        (start state).play around (alerts settings ++ silent) := by
  obtain ⟨events,search,played⟩ := equipped_searches around request state settings inv
  refine ⟨_,?_,played⟩
  have early : ∀ event ∈ events, event.Silent := fun event present =>
    (search.quiet event present).silent
  exact List.forall_mem_append.mpr ⟨early,readings_silent _ _⟩

end ScriptLauncher.Launch

namespace ScriptLauncher.Program
open Launch

-- The entries that a launch has logged, in their order.
def entries (events : List Event) : List Log.Entry :=
  events.filterMap fun
    | .logged entry => some entry
    | _ => none

@[simp] theorem entries_append (before after : List Event) :
    entries (before ++ after) = entries before ++ entries after := by simp [entries]

theorem mem_entries {events : List Event} {entry : Log.Entry} :
    entry ∈ entries events ↔ .logged entry ∈ events := by
  unfold entries
  rw [List.mem_filterMap]
  constructor
  · rintro ⟨event,present,told⟩
    cases event <;> cases told
    exact present
  · intro present
    exact ⟨_,present,rfl⟩

@[simp] theorem outputs_append (before after : List Event) :
    outputs (before ++ after) = outputs before ++ outputs after := by simp [outputs]
@[simp] theorem warnings_append (before after : List Event) :
    warnings (before ++ after) = warnings before ++ warnings after := by simp [warnings]
@[simp] theorem commands_append (before after : List Event) :
    commands (before ++ after) = commands before ++ commands after := by simp [commands]

@[simp] theorem outputs_alerts (settings : Settings) : outputs (alerts settings) = [] := by
  simp [outputs,alerts]
@[simp] theorem commands_alerts (settings : Settings) : commands (alerts settings) = [] := by
  simp [commands,alerts]

-- The lines that a launch shows for its settings.
def warningLines (settings : Settings) : Bytes := settings.warnings.flatMap warningText

@[simp] theorem warnings_alerts (settings : Settings) :
    warnings (alerts settings) = warningLines settings := by
  simp [warnings,alerts,warningLines,List.flatMap_map,warningLine_exact]

theorem silent_shows {events : List Event} (silent : ∀ event ∈ events, event.Silent) :
    outputs events = [] ∧ warnings events = [] ∧ commands events = [] := by
  induction events with
  | nil => exact ⟨rfl,rfl,rfl⟩
  | cons event rest ih =>
    obtain ⟨here,others⟩ := List.forall_mem_cons.mp silent
    obtain ⟨output,warning,command⟩ := ih others
    cases event with
    | logged entry => exact ⟨output,warning,command⟩
    | lookedUp dir => exact ⟨output,warning,command⟩
    | readVariables path => exact ⟨output,warning,command⟩
    | output line => exact here.elim
    | warning line => exact here.elim
    | dispatched cmd => exact here.elim

-- All that a launch has shown and started so far, and that nothing else happened to the outside.
structure Account {σ : Type} (around : Surroundings σ) (state : σ) (p : Progress σ)
    (output warning : Bytes) (started : List Command) : Prop where
  played : p = (start state).play around p.events
  outputs : outputs p.events = output
  warnings : warnings p.events = warning
  commands : commands p.events = started

theorem Account.reached {σ : Type} {around : Surroundings σ} {state : σ} {p : Progress σ}
    {output warning : Bytes} {started : List Command}
    (account : Account around state p output warning started) :
    p.state = replay around state p.events :=
  congrArg Progress.state account.played

-- What recording keeps stays as it is in a launch that started nothing.
theorem Account.keeps {σ : Type} {around : Surroundings σ} {state : σ} {p : Progress σ}
    {output warning : Bytes} (account : Account around state p output warning [])
    (holds : σ → Prop) (record : ∀ entry state, holds state → holds (around.record entry state))
    (start : holds state) : holds p.state := by
  rw [account.played]
  exact replay_keeps record start account.commands

theorem account_start {σ : Type} (around : Surroundings σ) (state : σ) :
    Account around state ⟨state,[]⟩ [] [] [] :=
  ⟨rfl,rfl,rfl,rfl⟩

-- Warnings come first, then silent events; only what follows can show or start anything more.
theorem account_of_play {σ : Type} (around : Surroundings σ) (state : σ) (settings : Settings)
    {silent : List Event} (calm : ∀ event ∈ silent, event.Silent) (tail : List Event) :
    Account around state ((start state).play around (alerts settings ++ silent ++ tail))
      (outputs tail) (warningLines settings ++ warnings tail) (commands tail) := by
  obtain ⟨output,warning,command⟩ := silent_shows calm
  refine ⟨?_,?_,?_,?_⟩
  · simp [Progress.play,start]
  · simp [Progress.play,start,output]
  · simp [Progress.play,start,warning]
  · simp [Progress.play,start,command]

theorem account_silent {σ : Type} (around : Surroundings σ) (state : σ) (settings : Settings)
    {silent : List Event} (calm : ∀ event ∈ silent, event.Silent) :
    Account around state ((start state).play around (alerts settings ++ silent)) []
      (warningLines settings) [] := by
  have account := account_of_play around state settings calm []
  simpa [outputs,warnings,commands] using account

theorem account_warned {σ : Type} (around : Surroundings σ) (state : σ) (settings : Settings) :
    Account around state (warned state settings) [] (warningLines settings) [] := by
  have none_ : ∀ event ∈ ([] : List Event), event.Silent := by simp
  have account := account_silent around state settings none_
  rw [warned_plays around]
  simpa using account

theorem account_located {σ : Type} (around : Surroundings σ) (request : Launch.Request) (state : σ)
    (settings : Settings) : Account around state (located around request state settings).2 []
      (warningLines settings) [] := by
  obtain ⟨quiet,calm,played⟩ := located_plays around request state settings
  rw [played]
  exact account_silent around state settings fun event present => (calm event present).silent

theorem account_previewed {σ : Type} (around : Surroundings σ) (request : Launch.Request) (state : σ)
    (settings : Settings) (inv : Invocation) : Account around state
      (((located around request state settings).2.log around (dryRunEntry inv)).note
        (.output (inv.commandLine ++ text "\n")))
      (inv.commandLine ++ text "\n") (warningLines settings) [] := by
  obtain ⟨quiet,calm,played⟩ := located_plays around request state settings
  have account := account_of_play around state settings
    (fun event present => (calm event present).silent) (previewEvents inv)
  rw [preview_plays,played,← play_append]
  simpa [previewEvents,outputs,warnings,commands] using account

theorem account_equipped {σ : Type} {around : Surroundings σ} {request : Launch.Request} {state : σ}
    {settings : Settings} {inv : Invocation} {given : Except Fault Command} {after : Progress σ}
    (equips : equipped around request state settings inv = (given,after)) :
    Account around state after [] (warningLines settings) [] := by
  obtain ⟨silent,calm,played⟩ := equipped_plays around request state settings inv
  rw [equips] at played
  rw [show after = _ from played]
  exact account_silent around state settings calm

theorem account_dispatched {σ : Type} {around : Surroundings σ} {request : Launch.Request}
    {state : σ} {settings : Settings} {inv : Invocation} {cmd : Command} {after : Progress σ}
    (equips : equipped around request state settings inv = (.ok cmd,after))
    (launcher : LauncherSettings) :
    Account around state (dispatch around launcher inv cmd after).2 [] (warningLines settings)
      [cmd] := by
  obtain ⟨silent,calm,played⟩ := equipped_plays around request state settings inv
  rw [equips] at played
  have account := account_of_play around state settings calm
    (dispatchEvents inv cmd (answer around inv cmd after))
  rw [play_append,← show after = _ from played] at account
  rw [dispatch_plays]
  simpa [dispatchEvents,outputs,warnings,commands] using account

end ScriptLauncher.Program
