import ScriptLauncher.Proofs.DryRun
import ScriptLauncher.Proofs.Entries
import ScriptLauncher.Proofs.Literals

namespace ScriptLauncher.Launch

variable {σ : Type}

-- What a launch logs for everyone to see: the entries that are not for debugging.
def records (events : List Event) : List Log.Entry := Log.written .info (Program.entries events)

@[simp] theorem records_append (before after : List Event) :
    records (before ++ after) = records before ++ records after := by
  simp [records,Log.written_append]

@[simp] theorem records_alerts (settings : Settings) : records (alerts settings) = [] := by
  simp [records,Program.entries,alerts,Log.written]

@[simp] theorem records_readings (workDir : Bytes) (launcher : LauncherSettings) :
    records (readings workDir launcher) = [] := by
  unfold readings
  split <;> rfl

@[simp] theorem records_preview (inv : Invocation) : records (previewEvents inv) = [] := rfl

theorem Search.unrecorded {around : Surroundings σ} {launcher : LauncherSettings} {state : σ}
    {searched : List Event} (search : Search around launcher state searched) :
    records searched = [] := by
  cases search <;> rfl

theorem outcome_level (inv : Invocation) (result : Option Fault) :
    ((outcomeEntry inv result).level = .info ↔ result = none) ∧
      Log.Level.info.severity ≤ (outcomeEntry inv result).level.severity := by
  cases result with
  | none => simp [outcomeEntry]
  | some fault =>
    unfold outcomeEntry
    dsimp only
    split <;> simp [Log.Level.severity]

theorem outcome_owner (inv : Invocation) (result : Option Fault) :
    (outcomeEntry inv result).runId = inv.runId ∧
      (outcomeEntry inv result).category = category := by
  unfold outcomeEntry
  split
  · exact ⟨rfl,rfl⟩
  · split <;> exact ⟨rfl,rfl⟩

theorem records_dispatch (inv : Invocation) (cmd : Command) (result : Option Fault) :
    records (dispatchEvents inv cmd result) = [dispatchEntry inv,outcomeEntry inv result] := by
  have first : Log.Level.info.severity ≤ (dispatchEntry inv).level.severity := Int.le_refl _
  have last := (outcome_level inv result).2
  simp [records,Program.entries,dispatchEvents,Log.written,first,last]

-- The records that a launch leaves, by what it comes to.
inductive Leaves (around : Surroundings σ) (request : Request) (state : σ) (events : List Event) :
    Except Fault Report → List Log.Entry → Prop where
  | failed : Leaves around request state events (.error fault) []
  | previewed (dry : request.dryRun = true) : Leaves around request state events (.ok report) []
  | dispatched (real : request.dryRun = false)
      (told : events = front ++ dispatchEvents report.invocation cmd result)
      (quiet : records front = []) (idle : Program.commands front = [])
      (answered : (around.run cmd
        (replay around state (front ++ [.logged (dispatchEntry report.invocation)]))).1 = result) :
      Leaves around request state events (.ok report)
        [dispatchEntry report.invocation,outcomeEntry report.invocation result]

theorem located_unrecorded (around : Surroundings σ) (request : Request) (state : σ)
    (settings : Settings) : records (located around request state settings).2.events = [] := by
  obtain ⟨searched,search,played⟩ := located_searches around request state settings
  simp [played,Progress.play,start,search.unrecorded]

theorem equipped_unrecorded {around : Surroundings σ} {request : Request} {state : σ}
    {settings : Settings} {inv : Invocation} {given : Except Fault Command} {after : Progress σ}
    (equips : equipped around request state settings inv = (given,after)) :
    records after.events = [] := by
  obtain ⟨searched,search,played⟩ := equipped_searches around request state settings inv
  rw [equips] at played
  simp [show after = _ from played,Progress.play,start,search.unrecorded]

theorem Course.leaves {around : Surroundings σ} {request : Request} {state : σ}
    {result : Except Fault Report} {p : Progress σ} (course : Course around request state result p) :
    Leaves around request state p.events result (records p.events) := by
  cases course with
  | misused wrong => exact .failed
  | unloaded single failed => exact .failed
  | rejected single loaded failed =>
    rename_i settings fault
    have nothing : records (warned state settings).events = [] := records_alerts settings
    rw [nothing]
    exact .failed
  | unplanned ready failed =>
    rw [located_unrecorded]
    exact .failed
  | previewed ready decided dry =>
    rw [preview_plays]
    simp only [Progress.play,records_append,located_unrecorded,records_preview,List.append_nil]
    exact .previewed dry
  | unequipped ready decided real failed =>
    rw [equipped_unrecorded failed]
    exact .failed
  | dispatched ready decided real given =>
    rename_i settings mode inv after cmd
    have quiet := equipped_unrecorded given
    have account := Program.account_equipped given
    have told := congrArg Progress.events
      (dispatch_plays around (effective settings request) inv cmd after)
    rw [told]
    simp only [Progress.play,records_append,quiet,records_dispatch,List.nil_append]
    refine .dispatched real rfl quiet account.commands ?_
    simp [answer,Progress.log,account.reached,replay,Event.effect,dispatch]

-- The names of the modes differ in their first letter.
theorem mode_append_inj {one other : Mode} {s t : Bytes}
    (same : one.name ++ s = other.name ++ t) : one = other ∧ s = t := by
  have shell : Mode.shell.name = [115,104,101,108,108] := by decide
  have exec : Mode.exec.name = [101,120,101,99] := by decide
  cases one <;> cases other <;> simp_all

-- What the entry before a launch says has a quote in it that nothing can be taken for, so it tells
-- the mode, the line and the directory.
theorem dispatch_message_injective {one other : Invocation}
    (same : (dispatchEntry one).message = (dispatchEntry other).message) :
    one.mode = other.mode ∧ one.commandLine = other.commandLine ∧ one.dir = other.dir := by
  unfold dispatchEntry at same
  simp only [List.append_assoc] at same
  obtain ⟨mode,line⟩ := mode_append_inj (List.append_cancel_left same)
  obtain ⟨commandLine,rest⟩ := Quoted.quote_append_inj (List.append_cancel_left line)
  exact ⟨mode,commandLine,List.append_cancel_right (List.append_cancel_left rest)⟩

-- A launch that fails or is only shown leaves no record. Any other leaves two, both in its category
-- and under the id of its run: one before its only command is started, and one after that, which is
-- for information exactly if the command succeeded. The first one tells the launch: two launches in
-- whose first records the messages agree have the same mode, line and directory.
theorem launch_leaves_two_records :
    (∀ (around : Surroundings σ) (request : Request) (state : σ),
      let ran := execute around request state
      (∀ fault, ran.1 = .error fault → records ran.2.events = []) ∧
      ∀ report, ran.1 = .ok report →
        (request.dryRun = true → records ran.2.events = []) ∧
        (request.dryRun = false → ∃ front cmd result before after,
          ran.2.events = front ++ [.logged before,.dispatched cmd,.logged after] ∧
          records ran.2.events = [before,after] ∧ Program.commands ran.2.events = [cmd] ∧
          (around.run cmd (replay around state (front ++ [.logged before]))).1 = result ∧
          (∀ entry ∈ [before,after],
            entry.category = text "launch" ∧ entry.runId = report.invocation.runId) ∧
          before.level = .info ∧ (after.level = .info ↔ result = none) ∧
          before = dispatchEntry report.invocation ∧
          after = outcomeEntry report.invocation result)) ∧
    (∀ one other : Invocation, (dispatchEntry one).message = (dispatchEntry other).message →
      one.mode = other.mode ∧ one.commandLine = other.commandLine ∧ one.dir = other.dir) ∧
    ∀ s t rest other, Quoted.quote s ++ rest = Quoted.quote t ++ other → s = t ∧ rest = other := by
  refine ⟨fun around request state => ?_,fun _ _ => dispatch_message_injective,
    fun _ _ _ _ => Quoted.quote_append_inj⟩
  obtain ⟨outcome,p,course⟩ := course_exists around request state
  rw [execute_complete course]
  have leaves := course.leaves
  dsimp only
  generalize records p.events = left at leaves ⊢
  refine ⟨fun fault failed => ?_,fun report reported => ⟨fun dry => ?_,fun real => ?_⟩⟩
  · subst failed
    cases leaves
    rfl
  · subst reported
    cases leaves with
    | previewed again => rfl
    | dispatched real => cases dry.symm.trans real
  · subst reported
    cases leaves with
    | previewed dry => cases dry.symm.trans real
    | dispatched again told quiet idle answered =>
      rename_i front cmd result
      have started : Program.commands p.events = [cmd] := by
        rw [told,Program.commands_append,idle]
        rfl
      obtain ⟨runId,placed⟩ := outcome_owner report.invocation result
      refine ⟨front,cmd,result,_,_,told,rfl,started,answered,?_,rfl,(outcome_level _ _).1,rfl,rfl⟩
      exact List.forall_mem_cons.mpr
        ⟨⟨rfl,rfl⟩,List.forall_mem_singleton.mpr ⟨placed,runId⟩⟩

-- A child that fails, after a line with quotes and a backslash in it.
theorem failing_child_leaves_two_records :
    records (execute sampleAround sampleRequest []).2.events =
      [⟨.info,text "run",text "launch",
          text "dispatch exec: \"python3 -u main.py 'it'\\\\''s $x'\" (dir=/w)"⟩,
        ⟨.warn,text "run",text "launch",text "child exited with status 3"⟩] := by
  obtain ⟨runs,-,-⟩ := launch_leaves_two_records (σ := List Log.Entry)
  have ran : (execute sampleAround sampleRequest []).1 = .ok sampleReport := by rfl
  obtain ⟨front,cmd,result,before,after,told,left,started,answered,-,-,-,rfl,rfl⟩ :=
    ((runs sampleAround sampleRequest []).2 sampleReport ran).2 rfl
  rw [left,← answered]
  rfl

end ScriptLauncher.Launch
