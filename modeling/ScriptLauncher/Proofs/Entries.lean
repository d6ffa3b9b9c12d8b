import ScriptLauncher.Proofs.Lines
import ScriptLauncher.Proofs.Modes
import ScriptLauncher.Proofs.Residue

namespace ScriptLauncher
open Bytes

namespace Log

def newlines (s : Bytes) : Nat := s.count newline

theorem newlines_zero {s : Bytes} : newlines s = 0 ↔ s.Line := List.count_eq_zero

theorem newlines_append (s t : Bytes) : newlines (s ++ t) = newlines s + newlines t :=
  List.count_append

theorem Moment.render_line (time : Moment) : Line time.render := by
  have dash : Line (text "-") := by decide
  have blank : Line (text " ") := by decide
  have colon : Line (text ":") := by decide
  simp [Moment.render,padded_line,dash,blank,colon]

theorem Level.label_line (level : Level) : Line level.label := by
  cases level <;> decide

theorem runLabel_line {runId : Bytes} (line : runId.Line) : Line (runLabel runId) := by
  have lead : Line (text "run-") := by decide
  have front : Line (runId.take runIdWidth) := fun present => line (List.mem_of_mem_take present)
  unfold runLabel
  split
  · decide
  · simp [lead,front]

-- Nothing in front of an entry's message breaks its line.
def Entry.Framed (entry : Entry) : Prop := entry.runId.Line ∧ entry.category.Line

theorem render_newlines (time : Moment) {entry : Entry} (framed : entry.Framed) :
    newlines (render time entry) = newlines entry.message + 1 := by
  have opening : Line (text "[") := by decide
  have between : Line (text "] [") := by decide
  have closing : Line (text "] ") := by decide
  have head : Line (text "[" ++ time.render ++ text "] [" ++ entry.level.label ++ text "] [" ++
      runLabel entry.runId ++ text "] [" ++ entry.category ++ text "] ") := by
    simp [opening,between,closing,time.render_line,entry.level.label_line,runLabel_line framed.1,
      framed.2]
  have ended : newlines (text "\n") = 1 := by decide
  rw [render,newlines_append,newlines_append,newlines_zero.mpr head,ended,Nat.zero_add]

theorem lines_append (time : Moment) (before after : List Entry) :
    lines time (before ++ after) = lines time before ++ lines time after :=
  List.flatMap_append

theorem written_append (level : Level) (before after : List Entry) :
    written level (before ++ after) = written level before ++ written level after :=
  List.filter_append ..

theorem mem_written {level : Level} {entries : List Entry} {entry : Entry} :
    entry ∈ written level entries ↔ entry ∈ entries ∧ level.severity ≤ entry.level.severity := by
  simp [written]

-- Entries for debugging are written only by a logger that writes everything.
theorem severity_debug {level : Level} : level.severity ≤ Level.debug.severity ↔ level = .debug := by
  cases level <;> decide

section

variable (time : Moment)

theorem lines_cons_newlines {entry : Entry} (framed : entry.Framed) (rest : List Entry) :
    newlines (lines time (entry :: rest)) =
      newlines entry.message + 1 + newlines (lines time rest) := by
  rw [lines,List.flatMap_cons,newlines_append,render_newlines time framed]
  rfl

theorem length_le_newlines {entries : List Entry} (framed : ∀ entry ∈ entries, entry.Framed) :
    entries.length ≤ newlines (lines time entries) := by
  induction entries with
  | nil => exact Nat.zero_le _
  | cons entry rest ih =>
    obtain ⟨first,others⟩ := List.forall_mem_cons.mp framed
    have later := ih others
    rw [List.length_cons,lines_cons_newlines time first]
    omega

-- There are as many lines as entries exactly if no message breaks its line: no entry has less than
-- a line, so none can make up for another.
theorem lines_newlines_iff {entries : List Entry} (framed : ∀ entry ∈ entries, entry.Framed) :
    newlines (lines time entries) = entries.length ↔ ∀ entry ∈ entries, Line entry.message := by
  induction entries with
  | nil => simp [lines,newlines]
  | cons entry rest ih =>
    obtain ⟨first,others⟩ := List.forall_mem_cons.mp framed
    have least := length_le_newlines time others
    rw [List.forall_mem_cons,← ih others,← newlines_zero,List.length_cons,
      lines_cons_newlines time first]
    omega

end

end Log

namespace Launch

variable {σ : Type}

-- All that a launch puts into its entries besides the argument is text of one line.
structure Lined (around : Surroundings σ) (request : Request) (state : σ) : Prop where
  workDir : Line around.workDir
  runId : Line around.runId
  interpreter : ∀ settings, around.settings state = .ok settings →
    Line settings.launcher.interpreter
  script : ∀ settings, around.settings state = .ok settings → Line settings.launcher.entryScript
  root : ∀ root, around.worktree state around.workDir = .ok root → Line root
  executor : ∀ cmd fault,
    Answered around state (execute around request state).2.events cmd (some fault) →
    Line fault.message

section

variable {around : Surroundings σ} {request : Request} {state : σ}

theorem locateScript_line {launcher : LauncherSettings} {p : Progress σ}
    (script : Line launcher.entryScript)
    (roots : ∀ root, around.worktree p.state around.workDir = .ok root → Line root) :
    Line (locateScript around launcher p).1.path := by
  unfold locateScript resolveScript
  split
  · split
    · exact script
    · dsimp only
      split
      · split <;> exact script
      · rename_i root inside
        split
        · exact Path.join_line (by simpa using ⟨roots root inside,script⟩)
        · exact script
  · exact script

theorem quoteScript_line {rules : LineRules} (standard : rules = .standard) (plainShell : Bool)
    (shell : Bytes) {path : Bytes} (line : path.Line) :
    Line (quoteScript rules plainShell shell path) := by
  subst standard
  unfold quoteScript
  split
  · have mark : Line (text "\"") := by decide
    simp [doubleQuoted,mark,line]
  · exact (Words.join_line_iff [path]).mpr (by simpa using line)

-- A line that is planned breaks exactly where the argument does.
theorem plan_line_iff (standard : around.rules = .standard) {launcher : LauncherSettings}
    {mode : Mode} {script : Script} {filename : Bytes} {inv : Invocation}
    (interpreter : Line launcher.interpreter) (path : Line script.path)
    (decided : plan around launcher mode script filename = .ok inv) :
    inv.commandLine.Line ↔ filename.Line := by
  have blank : space ≠ newline := by decide
  rcases plan_cases decided with rfl | ⟨words,read,rfl⟩
  · have word : Line (if script.resolved then
        quoteScript around.rules around.plainShell launcher.shell script.path else script.path) := by
      split
      · exact quoteScript_line standard _ _ path
      · exact path
    simp [shellLine,LauncherSettings.lead,interpreter,word,blank]
  · obtain ⟨program,args,split_,rfl⟩ := execWords_parts read
    rw [standard] at split_
    have front := Words.split_lines (LineRules.standard_exact.mp split_) interpreter
    dsimp only
    rw [standard]
    refine (Words.join_line_iff _).trans ⟨fun lines => lines filename (by simp),fun file => ?_⟩
    simp only [List.forall_mem_append]
    exact ⟨front,by simpa using ⟨path,file⟩⟩

theorem plan_runId {launcher : LauncherSettings} {mode : Mode} {script : Script} {filename : Bytes}
    {inv : Invocation} (decided : plan around launcher mode script filename = .ok inv) :
    inv.runId = around.runId := by
  rcases plan_cases decided with rfl | ⟨words,-,rfl⟩
  · rfl
  · rfl

-- What a launch logs once its search for the script is over.
inductive Ends (around : Surroundings σ) (request : Request) (state : σ) (events : List Event) :
    Except Fault Report → List Log.Entry → Prop where
  | failed : Ends around request state events (.error fault) []
  | previewed (ready : Ready around request state filename settings mode)
      (decided : planned around request state filename settings mode = .ok inv)
      (dry : request.dryRun = true) :
      Ends around request state events (.ok report) [dryRunEntry inv]
  | dispatched (ready : Ready around request state filename settings mode)
      (decided : planned around request state filename settings mode = .ok inv)
      (real : request.dryRun = false) (answered : Answered around state events cmd result) :
      Ends around request state events (.ok report) [dispatchEntry inv,outcomeEntry inv result]

-- The entries and the lookups among all that happened, where only the search has lookups.
theorem events_told {dir : Bytes} (settings : Settings) (searched : List Event) {rest : List Event}
    (none_ : .lookedUp dir ∉ rest) {events : List Event}
    (whole : events = alerts settings ++ (searched ++ rest)) :
    Program.entries events = Program.entries searched ++ Program.entries rest ∧
      (.lookedUp dir ∈ events ↔ .lookedUp dir ∈ searched) := by
  have alerted : Program.entries (alerts settings) = [] := by simp [Program.entries,alerts]
  have asked : .lookedUp dir ∉ alerts settings := by simp [alerts]
  rw [whole]
  simp [alerted,asked,none_]

theorem readings_told (dir workDir : Bytes) (launcher : LauncherSettings) :
    Program.entries (readings workDir launcher) = [] ∧
      .lookedUp dir ∉ readings workDir launcher := by
  unfold readings
  split
  · simp [Program.entries]
  · simp [Program.entries]

theorem dispatched_searches {settings : Settings} {inv : Invocation} {cmd : Command}
    {after : Progress σ} (given : equipped around request state settings inv = (.ok cmd,after))
    (launcher : LauncherSettings) :
    ∃ searched, Search around (effective settings request) state searched ∧
      (dispatch around launcher inv cmd after).2.events = alerts settings ++
        (searched ++ (readings around.workDir (effective settings request) ++
          dispatchEvents inv cmd (answer around inv cmd after))) := by
  obtain ⟨searched,search,played⟩ := equipped_searches around request state settings inv
  rw [given] at played
  have before : after.events = alerts settings ++
      (searched ++ readings around.workDir (effective settings request)) := by
    rw [show after = _ from played]
    simp [Progress.play,start]
  refine ⟨searched,search,?_⟩
  rw [dispatch_plays]
  simp [Progress.play,before]

-- Every launch logs the entries of a search and then those of its end.
theorem execute_entries (script : ∀ settings, around.settings state = .ok settings →
      Line settings.launcher.entryScript) :
    let ran := execute around request state
    ∃ launcher searched told, launcher.entryScript.Line ∧ Search around launcher state searched ∧
      Ends around request state ran.2.events ran.1 told ∧
      Program.entries ran.2.events = Program.entries searched ++ told ∧
      (.lookedUp around.workDir ∈ ran.2.events ↔ .lookedUp around.workDir ∈ searched) := by
  have unasked : .lookedUp around.workDir ∉ ([] : List Event) := List.not_mem_nil
  obtain ⟨result,p,course⟩ := course_exists around request state
  dsimp only
  rw [execute_complete course]
  dsimp only
  cases course with
  | misused wrong => exact ⟨{},[],[],line_nil,.taken,.failed,rfl,Iff.rfl⟩
  | unloaded single failed => exact ⟨{},[],[],line_nil,.taken,.failed,rfl,Iff.rfl⟩
  | rejected single loaded failed =>
    rename_i filename settings fault
    refine ⟨{},[],[],line_nil,.taken,.failed,events_told settings [] unasked ?_⟩
    simp [warned,alerts]
  | unplanned ready failed =>
    rename_i filename settings mode fault
    obtain ⟨searched,search,played⟩ := located_searches around request state settings
    refine ⟨effective settings request,searched,[],script settings ready.loaded,search,.failed,
      events_told settings searched unasked ?_⟩
    simp [played,Progress.play,start]
  | previewed ready decided dry =>
    rename_i filename settings mode inv
    obtain ⟨searched,search,played⟩ := located_searches around request state settings
    have silent : .lookedUp around.workDir ∉ previewEvents inv := by simp [previewEvents]
    refine ⟨effective settings request,searched,_,script settings ready.loaded,search,
      .previewed ready decided dry,events_told settings searched silent ?_⟩
    rw [preview_plays,played]
    simp [Progress.play,start]
  | unequipped ready decided real failed =>
    rename_i filename settings mode inv fault
    obtain ⟨searched,search,played⟩ := equipped_searches around request state settings inv
    obtain ⟨nothing,silent⟩ := readings_told around.workDir around.workDir
      (effective settings request)
    have told := events_told settings searched silent (congrArg Progress.events played)
    rw [failed,nothing] at told
    exact ⟨effective settings request,searched,[],script settings ready.loaded,search,.failed,told⟩
  | dispatched ready decided real given =>
    rename_i filename settings mode inv after cmd
    obtain ⟨searched,search,events⟩ := dispatched_searches given (effective settings request)
    obtain ⟨nothing,silent⟩ := readings_told around.workDir around.workDir
      (effective settings request)
    have quiet : .lookedUp around.workDir ∉ readings around.workDir (effective settings request) ++
        dispatchEvents inv cmd (answer around inv cmd after) := by
      simp [silent,dispatchEvents]
    have told := events_told settings searched quiet events
    rw [Program.entries_append,nothing] at told
    exact ⟨effective settings request,searched,_,script settings ready.loaded,search,
      .dispatched ready decided real (dispatch_answered given (effective settings request)),told⟩

-- The two ways in which text from outside gets into an entry as it is: a dry run shows a line that
-- the argument breaks, and a lookup fails with a message that has a line break in it.
inductive Forged (around : Surroundings σ) (request : Request) (state : σ) : Prop where
  | argument (single : request.args = [filename]) (dry : request.dryRun = true)
      (shown : (execute around request state).1 = .ok report) (broken : ¬filename.Line) :
      Forged around request state
  | lookup (asked : .lookedUp around.workDir ∈ (execute around request state).2.events)
      (lost : around.worktree state around.workDir = .error fault)
      (other : fault.isNotARepository = false) (broken : ¬fault.message.Line) :
      Forged around request state

theorem category_line : Line category := by decide

theorem lookupEntry_line_iff (fault : Fault) :
    Line (lookupEntry fault).message ↔ fault.message.Line := by
  have lead : Line (text "repository lookup failed: ") := by decide
  simp [lookupEntry,lead]

theorem resolvedEntry_line {path : Bytes} (line : path.Line) :
    Line (resolvedEntry path).message := by
  have lead : Line (text "entry script resolved to ") := by decide
  simp [resolvedEntry,lead,line]

theorem dryRunEntry_line_iff (inv : Invocation) :
    Line (dryRunEntry inv).message ↔ inv.commandLine.Line := by
  have lead : Line (text "dry run: ") := by decide
  simp [dryRunEntry,lead]

theorem dispatchEntry_line {inv : Invocation} (dir : inv.dir.Line) :
    Line (dispatchEntry inv).message := by
  have lead : Line (text "dispatch ") := by decide
  have mode : Line inv.mode.name := by cases inv.mode <;> decide
  have between : Line (text ": ") := by decide
  have opening : Line (text " (dir=") := by decide
  have closing : Line (text ")") := by decide
  simp [dispatchEntry,lead,mode,between,Quoted.quote_line,opening,dir,closing]

theorem outcomeEntry_line (inv : Invocation) {result : Option Fault}
    (lines : ∀ fault, result = some fault → Line fault.message) :
    Line (outcomeEntry inv result).message := by
  have unstarted : Line (text "child could not be started: ") := by decide
  have ended : Line (text "child exited with status ") := by decide
  unfold outcomeEntry
  split
  · exact (by decide : Line (text "child exited with status 0"))
  · rename_i fault
    split
    · simp [unstarted,lines fault rfl]
    · simp [ended,ofInt_line]

theorem outcomeEntry_framed {inv : Invocation} (runId : inv.runId.Line) (result : Option Fault) :
    (outcomeEntry inv result).Framed := by
  unfold outcomeEntry
  split
  · exact ⟨runId,category_line⟩
  · split <;> exact ⟨runId,category_line⟩

-- What a search logs is for debugging only, and breaks its line only with the message of a fault.
theorem Search.entries_lined {launcher : LauncherSettings} {searched : List Event}
    (search : Search around launcher state searched) (script : launcher.entryScript.Line)
    (roots : ∀ root, around.worktree state around.workDir = .ok root → Line root) :
    ∀ entry ∈ Program.entries searched, entry.Framed ∧ (entry.message.Line ∨
      entry.level = .debug ∧ ∃ fault, .lookedUp around.workDir ∈ searched ∧
        around.worktree state around.workDir = .error fault ∧ fault.isNotARepository = false ∧
        ¬fault.message.Line) := by
  intro entry present
  cases search with
  | taken => cases present
  | outside lost none_ => cases present
  | failed lost other =>
    rename_i fault
    obtain rfl : entry = lookupEntry fault := List.mem_singleton.mp present
    refine ⟨⟨line_nil,category_line⟩,?_⟩
    by_cases line : fault.message.Line
    · exact .inl ((lookupEntry_line_iff fault).mpr line)
    · exact .inr ⟨rfl,fault,by simp,lost,other,line⟩
  | found inside there =>
    rename_i root
    obtain rfl := List.mem_singleton.mp present
    refine ⟨⟨line_nil,category_line⟩,.inl (resolvedEntry_line (Path.join_line ?_))⟩
    simpa using ⟨roots root inside,script⟩
  | missing inside absent => cases present

theorem Search.lookup_logged {launcher : LauncherSettings} {searched : List Event}
    (search : Search around launcher state searched)
    (asked : .lookedUp around.workDir ∈ searched) {fault : Fault}
    (lost : around.worktree state around.workDir = .error fault)
    (other : fault.isNotARepository = false) :
    lookupEntry fault ∈ Program.entries searched := by
  rw [Program.mem_entries]
  cases search with
  | taken => cases asked
  | outside lost' none_ =>
    rw [lost] at lost'
    cases lost'
    rw [other] at none_
    cases none_
  | failed lost' other' =>
    rw [lost] at lost'
    cases lost'
    simp
  | found inside there =>
    rw [lost] at inside
    cases inside
  | missing inside absent =>
    rw [lost] at inside
    cases inside

section

variable (standard : around.rules = .standard) (lined : Lined around request state)
include standard lined

theorem planned_line_iff {filename : Bytes} {settings : Settings} {mode : Mode} {inv : Invocation}
    (ready : Ready around request state filename settings mode)
    (decided : planned around request state filename settings mode = .ok inv) :
    inv.commandLine.Line ↔ filename.Line := by
  have script : Line (effective settings request).entryScript := lined.script settings ready.loaded
  exact plan_line_iff standard (lined.interpreter settings ready.loaded)
    (locateScript_line script lined.root) decided

theorem Ends.entries_lined {result : Except Fault Report} {told : List Log.Entry}
    (ends : Ends around request state (execute around request state).2.events result told)
    (came : (execute around request state).1 = result) :
    ∀ entry ∈ told, entry.Framed ∧
      (entry.message.Line ∨ entry.level = .debug ∧ Forged around request state) := by
  cases ends with
  | failed => simp
  | previewed ready decided dry =>
    rename_i filename settings mode inv report
    have runId : inv.runId.Line := plan_runId decided ▸ lined.runId
    refine List.forall_mem_singleton.mpr ⟨⟨runId,category_line⟩,?_⟩
    by_cases line : filename.Line
    · exact .inl ((dryRunEntry_line_iff inv).mpr ((planned_line_iff standard lined ready decided).mpr
        line))
    · exact .inr ⟨rfl,.argument ready.single dry came line⟩
  | dispatched ready decided real answered =>
    rename_i filename settings mode inv cmd result report
    have runId : inv.runId.Line := plan_runId decided ▸ lined.runId
    have dir : inv.dir.Line := (plan_binds decided none).1 ▸ lined.workDir
    have told : ∀ fault, result = some fault → Line fault.message := by
      rintro fault rfl
      exact lined.executor cmd fault answered
    refine List.forall_mem_cons.mpr ⟨⟨⟨runId,category_line⟩,.inl (dispatchEntry_line dir)⟩,?_⟩
    exact List.forall_mem_singleton.mpr
      ⟨outcomeEntry_framed runId result,.inl (outcomeEntry_line inv told)⟩

-- What a launch logs is one line an entry, unless something is forged in an entry for debugging.
theorem entries_lined : ∀ entry ∈ Program.entries (execute around request state).2.events,
    entry.Framed ∧ (entry.message.Line ∨ entry.level = .debug ∧ Forged around request state) := by
  obtain ⟨launcher,searched,told,script,search,ends,entries,asks⟩ := execute_entries lined.script
  rw [entries]
  refine List.forall_mem_append.mpr ⟨fun entry present => ?_,ends.entries_lined standard lined rfl⟩
  obtain ⟨framed,line | ⟨debug,fault,asked,lost,other,broken⟩⟩ :=
    search.entries_lined script lined.root entry present
  · exact ⟨framed,.inl line⟩
  · exact ⟨framed,.inr ⟨debug,.lookup (asks.mpr asked) lost other broken⟩⟩

theorem Forged.logged (forged : Forged around request state) :
    ∃ entry ∈ Program.entries (execute around request state).2.events,
      entry.level = .debug ∧ ¬entry.message.Line := by
  obtain ⟨launcher,searched,told,-,search,ends,entries,asks⟩ := execute_entries lined.script
  rw [entries]
  cases forged with
  | lookup asked lost other broken =>
    rename_i fault
    have present := search.lookup_logged (asks.mp asked) lost other
    exact ⟨_,List.mem_append_left _ present,rfl,fun line => broken
      ((lookupEntry_line_iff fault).mp line)⟩
  | argument single dry shown broken =>
    rename_i filename report
    rw [shown] at ends
    cases ends with
    | previewed ready decided =>
      cases single.symm.trans ready.single
      refine ⟨_,List.mem_append_right _ (List.mem_singleton_self _),rfl,fun line => broken ?_⟩
      exact (planned_line_iff standard lined ready decided).mp ((dryRunEntry_line_iff _).mp line)
    | dispatched ready decided real =>
      rw [dry] at real
      cases real

end

theorem written_lined_iff (standard : around.rules = .standard)
    (lined : Lined around request state) (level : Log.Level) :
    (∀ entry ∈ Log.written level (Program.entries (execute around request state).2.events),
      entry.message.Line) ↔ ¬(level = .debug ∧ Forged around request state) := by
  constructor
  · rintro lines ⟨rfl,forged⟩
    obtain ⟨entry,present,debug,broken⟩ := forged.logged standard lined
    exact broken (lines entry (Log.mem_written.mpr ⟨present,by simp [debug]⟩))
  · intro honest entry present
    obtain ⟨inside,loud⟩ := Log.mem_written.mp present
    rcases (entries_lined standard lined entry inside).2 with line | ⟨debug,forged⟩
    · exact line
    · rw [debug] at loud
      exact (honest ⟨Log.severity_debug.mp loud,forged⟩).elim

-- The log of a launch grows by one line for each entry written to it, unless it is a log for
-- debugging and something is forged.
theorem one_line_per_entry_iff (standard : around.rules = .standard)
    (lined : Lined around request state) {time : Log.Moment} {view : σ → Log.Logger × Host}
    (logs : Logs around time view) {logger : Log.Logger} (on : logger.stateDir ≠ [])
    (closed : logger.handle = none) {host : Host} (sound : host.files.Sound) {id : Nat}
    {files : FileSystem} (openable : Log.Openable logger.stateDir host id files)
    {earlier : List Log.Entry} (began : view state = logger.recordAll time earlier host) :
    let ran := (execute around request state).2
    Log.newlines (Log.contents logger.stateDir (view ran.state).2) =
      Log.newlines (Log.contents logger.stateDir (view state).2) +
        (Log.written logger.level (Program.entries ran.events)).length ↔
      ¬(logger.level = .debug ∧ Forged around request state) := by
  have framed : ∀ entry ∈ Log.written logger.level
      (Program.entries (execute around request state).2.events), entry.Framed := by
    intro entry present
    exact (entries_lined standard lined entry (Log.mem_written.mp present).1).1
  have before := logger.recordAll_contents on closed sound openable time earlier
  have after := logger.recordAll_contents on closed sound openable time
    (earlier ++ Program.entries (execute around request state).2.events)
  dsimp only
  rw [← written_lined_iff standard lined,← Log.lines_newlines_iff time framed,logs.execute,began,
    ← Log.Logger.recordAll_append,before,after]
  simp only [Log.written_append,Log.lines_append,Log.newlines_append]
  omega

end

-- A launch with nothing outside but a log.
def notedAround : Surroundings (Log.Logger × Host) where
  settings _ := .ok .default
  isFile _ _ := false
  worktree _ _ := .error (.of .notARepository)
  vars _ _ := .error (.of .absent)
  record entry state := state.1.record ⟨2026,1,1,12,0,0⟩ entry state.2
  run _ state := (some (.of (.childStatus 3)),state)
  rules := .standard
  environ := []
  workDir := text "/w"
  runId := RunId.ofBytes [1,2,3,4,5,6,7,8,9,10,11,12,13,14,15,16]

theorem noted_lined (request : Request) (state : Log.Logger × Host) :
    Lined notedAround request state where
  workDir := by decide
  runId := RunId.ofBytes_line _
  interpreter := by
    intro settings loaded
    cases loaded
    decide
  script := by
    intro settings loaded
    cases loaded
    decide
  root := by
    intro root inside
    cases inside
  executor := by
    rintro cmd fault ⟨front,back,-,-,-,answer⟩
    cases answer
    decide

def notedStart : Log.Logger × Host :=
  ({ stateDir := text "../s/orion",level := .debug },Program.loggedPlace)

-- What was written for a launch with an argument of two lines: two entries after the one line that
-- was there, since the command line is quoted in them.
theorem broken_argument_is_quoted : Log.newlines (Log.contents (text "../s/orion")
    (execute notedAround { args := [text "a\nb"] } notedStart).2.state.2) = 1 + 2 := by
  have openable : Log.Openable notedStart.1.stateDir notedStart.2 0 Program.loggedPlace.files :=
    Program.loggedPlace_openable
  have logs : Logs notedAround ⟨2026,1,1,12,0,0⟩ id := ⟨fun _ _ => rfl,fun _ _ => rfl⟩
  have began : id notedStart =
      notedStart.1.recordAll ⟨2026,1,1,12,0,0⟩ [] notedStart.2 := rfl
  refine ((one_line_per_entry_iff rfl (noted_lined _ _) logs (by decide) rfl
    Program.loggedPlace_sound openable began).mpr ?_).trans (by decide +kernel)
  rintro ⟨-,forged⟩
  cases forged with
  | argument single dry shown broken => cases dry
  | lookup asked lost other broken =>
    cases lost
    cases other

def forgingRequest : Request where
  args := [text "x\n[2026-01-01 12:00:00] [ERROR] [global] [launch] child could not be started: rm"]
  dryRun := true

-- The same log after a dry run: one entry, and two more lines. The second of them reads as an entry
-- of its own.
theorem dry_run_forges_entry :
    let ran := (execute notedAround forgingRequest notedStart).2
    let before := Log.contents (text "../s/orion") notedStart.2
    let after := Log.contents (text "../s/orion") ran.state.2
    Lined notedAround forgingRequest notedStart ∧ (Program.entries ran.events).length = 1 ∧
      Log.newlines after = Log.newlines before + 2 ∧
      after = before ++ Log.lines ⟨2026,1,1,12,0,0⟩
        [⟨.debug,notedAround.runId,category,text "dry run: python3 main.py x"⟩,
          ⟨.error,[],category,text "child could not be started: rm"⟩] :=
  ⟨noted_lined _ _,by decide +kernel,by decide +kernel,by decide +kernel⟩

end Launch

end ScriptLauncher
