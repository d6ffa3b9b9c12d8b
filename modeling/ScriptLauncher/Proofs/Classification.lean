import ScriptLauncher.Proofs.Records

namespace ScriptLauncher

namespace Fault

-- No fault in it has a status, so nothing says that a child ran.
def Bare (fault : Fault) : Prop := ∀ inner ∈ fault.preorder, inner.status? = none

theorem Carries.solid {fault : Fault} {code : Int} (carries : fault.Carries code) : ¬fault.Bare := by
  intro bare
  have none_ := bare_exact.mpr bare
  rw [carries_exact.mpr carries] at none_
  cases none_

end Fault

-- The code for a child that did not start is given to some that did.
theorem notStarted_exact {fault : Fault} :
    exitCodeOf (some fault) = notStarted ↔ fault.Bare ∨ fault.Carries 127 := by
  rw [exitCodeOf_exact]
  constructor
  · intro denotes
    generalize code : notStarted = answer at denotes
    cases denotes with
    | status carried ended => cases code; exact .inr carried
    | signal carried killed => cases code
    | unstarted bare => exact .inl bare
  · rintro (bare | carried)
    · exact .unstarted bare
    · exact .status carried (by decide)

namespace Launch

variable {σ : Type}

-- The first command that was started, if nothing was started before it.
theorem dispatched_unique {front back : List Event} {cmd : Command}
    (none_ : Program.commands front = []) {other rest : List Event} {second : Command}
    (nothing : Program.commands other = [])
    (same : front ++ .dispatched cmd :: back = other ++ .dispatched second :: rest) :
    front = other ∧ cmd = second := by
  induction front generalizing other with
  | nil =>
    cases other with
    | nil =>
      cases same
      exact ⟨rfl,rfl⟩
    | cons event other =>
      cases same
      cases nothing
  | cons event front ih =>
    cases other with
    | nil =>
      cases same
      cases none_
    | cons first other =>
      obtain ⟨rfl,later⟩ := List.cons.inj same
      have quiet : Program.commands front = [] ∧ Program.commands other = [] := by
        cases event <;> first | exact ⟨none_,nothing⟩ | cases none_
      obtain ⟨rfl,rfl⟩ := ih quiet.1 quiet.2 later
      exact ⟨rfl,rfl⟩

theorem Answered.unique {around : Surroundings σ} {state : σ} {events : List Event}
    {cmd second : Command} {result other : Option Fault}
    (first : Answered around state events cmd result)
    (again : Answered around state events second other) : cmd = second ∧ result = other := by
  obtain ⟨front,back,rfl,none_,-,rfl⟩ := first
  obtain ⟨before,after,same,nothing,-,rfl⟩ := again
  obtain ⟨rfl,rfl⟩ := dispatched_unique none_ nothing same
  exact ⟨rfl,rfl⟩

-- The records of a launch whose executor gave this result.
theorem answered_records {around : Surroundings σ} {request : Request} {state : σ} {cmd : Command}
    {result : Option Fault}
    (answered : Answered around state (execute around request state).2.events cmd result) :
    ∃ inv, records (execute around request state).2.events =
      [dispatchEntry inv,outcomeEntry inv result] := by
  obtain ⟨outcome,p,course⟩ := course_exists around request state
  rw [execute_complete course] at answered ⊢
  have started : Program.commands p.events ≠ [] := by
    obtain ⟨front,back,told,-,-,-⟩ := answered
    intro none_
    rw [show p.events = _ from told,Program.commands_append] at none_
    cases (List.append_eq_nil_iff.mp none_).2
  obtain ⟨report,rfl,dispatched⟩ := course.reported started
  cases course with
  | previewed ready decided dry => cases dispatched
  | dispatched ready decided real given =>
    rename_i settings mode inv after second
    obtain ⟨rfl,rfl⟩ := answered.unique (dispatch_answered given (effective settings request))
    refine ⟨inv,?_⟩
    rw [dispatch_plays]
    simp [Progress.play,equipped_unrecorded given,records_dispatch]

-- An entry of some level with a message of some kind was logged.
def Told (events : List Event) (level : Log.Level) (kind : Bytes → Prop) : Prop :=
  ∃ entry ∈ Program.entries events, entry.level = level ∧ kind entry.message

def ToldUnstarted (events : List Event) : Prop :=
  Told events .error (text "child could not be started" <+: ·)

def ToldEnded (events : List Event) (code : Int) : Prop :=
  Told events .warn (· = text "child exited with status " ++ Bytes.ofInt code)

section

variable {events : List Event} {inv : Invocation} {result : Option Fault}
  (left_ : records events = [dispatchEntry inv,outcomeEntry inv result])
include left_

-- Warnings and errors come from the child's end alone.
theorem told_exact {level : Log.Level} (loud : Log.Level.info.severity < level.severity)
    (kind : Bytes → Prop) : Told events level kind ↔
      (outcomeEntry inv result).level = level ∧ kind (outcomeEntry inv result).message := by
  have recorded (entry : Log.Entry) (here : entry.level = level) :
      entry ∈ Program.entries events ↔ entry = outcomeEntry inv result := by
    have other : entry ≠ dispatchEntry inv := by
      rintro rfl
      rw [← here] at loud
      exact absurd loud (Int.lt_irrefl _)
    have heard : entry ∈ records events ↔ entry ∈ Program.entries events := by
      rw [records,Log.mem_written,here]
      simp [Int.le_of_lt loud]
    rw [← heard,left_]
    simp [other]
  constructor
  · rintro ⟨entry,present,here,which⟩
    rw [← (recorded entry here).mp present]
    exact ⟨here,which⟩
  · rintro ⟨here,which⟩
    exact ⟨_,(recorded _ here).mpr rfl,here,which⟩

theorem unstarted_told {fault : Fault} (failed : result = some fault) :
    ToldUnstarted events ↔ exitCodeOf (some fault) = notStarted := by
  have lead : text "child could not be started: " = text "child could not be started" ++ text ": " :=
    by decide
  subst failed
  rw [ToldUnstarted,told_exact left_ (by decide)]
  by_cases code : exitCodeOf (some fault) = notStarted
  · simp [outcomeEntry,code,lead]
  · simp [outcomeEntry,code]

theorem ended_told {fault : Fault} (failed : result = some fault) :
    ToldEnded events (exitCodeOf (some fault)) ↔ exitCodeOf (some fault) ≠ notStarted := by
  subst failed
  rw [ToldEnded,told_exact left_ (by decide)]
  by_cases code : exitCodeOf (some fault) = notStarted
  · simp [outcomeEntry,code]
  · simp [outcomeEntry,code]

end

-- What a launch logs of a child that failed. It says that the child could not be started where no
-- fault has a status, and also where the first status is the code that stands for this; it says how
-- the child ended in all other cases. So the log tells whether the child ran unless it ended with
-- that code.
theorem failure_is_told_iff {around : Surroundings σ} {request : Request} {state : σ} {cmd : Command}
    {fault : Fault}
    (answered : Answered around state (execute around request state).2.events cmd (some fault)) :
    let events := (execute around request state).2.events
    (ToldUnstarted events ↔ fault.Bare ∨ fault.Carries 127) ∧
    (ToldEnded events (exitCodeOf (some fault)) ↔ ¬fault.Bare ∧ ¬fault.Carries 127) ∧
    (((ToldUnstarted events ↔ fault.Bare) ∧
        (ToldEnded events (exitCodeOf (some fault)) ↔ ¬fault.Bare)) ↔ ¬fault.Carries 127) := by
  obtain ⟨inv,left_⟩ := answered_records answered
  have unstarted := (unstarted_told left_ rfl).trans notStarted_exact
  have ended := (ended_told left_ rfl).trans (not_congr notStarted_exact)
  rw [not_or] at ended
  have solid : fault.Carries 127 → ¬fault.Bare := Fault.Carries.solid
  refine ⟨unstarted,ended,?_⟩
  rw [unstarted,ended]
  by_cases taken : fault.Carries 127
  · simp [taken,solid taken]
  · simp [taken]

-- A launch with this result of its executor.
def failingAround (fault : Fault) : Surroundings (List Log.Entry) :=
  { sampleAround with run := fun _ log => (some fault,log) }

theorem failing_answered (fault : Fault) : ∃ cmd, Answered (failingAround fault) []
    (execute (failingAround fault) sampleRequest []).2.events cmd (some fault) :=
  ⟨_,[.readVariables (text "/w/.env"),.logged _],[.logged _],by rfl,by rfl,by rfl,by rfl⟩

-- A status behind a request for a code and a fault without either, all of it in some context.
def laterStatus : Fault :=
  .context (text "run: ") (.all [.of (.exitRequest 127),.of .usage,.of (.childStatus 126)])

theorem later_status_is_told :
    let events := (execute (failingAround laterStatus) sampleRequest []).2.events
    ¬ToldUnstarted events ∧ ToldEnded events 126 := by
  obtain ⟨cmd,answered⟩ := failing_answered laterStatus
  have carried : laterStatus.Carries 126 := Fault.carries_exact.mp (by rfl)
  have other : ¬laterStatus.Carries 127 := fun also => by
    cases (Fault.carries_exact.mpr carried).symm.trans (Fault.carries_exact.mpr also)
  obtain ⟨unstarted,ended,-⟩ := failure_is_told_iff answered
  exact ⟨fun told => (unstarted.mp told).elim carried.solid other,ended.mpr ⟨carried.solid,other⟩⟩

-- A child that ran and ended with the code for one that did not.
def takenStatus : Fault := .of (.childStatus 127)

theorem taken_status_is_told_as_unstarted :
    let events := (execute (failingAround takenStatus) sampleRequest []).2.events
    (∃ cmd, Answered (failingAround takenStatus) [] events cmd (some takenStatus)) ∧
      takenStatus.Carries 127 ∧
      ¬(ToldUnstarted events ↔ takenStatus.Bare) ∧
      ¬(ToldEnded events (exitCodeOf (some takenStatus)) ↔ ¬takenStatus.Bare) := by
  have carried : takenStatus.Carries 127 := Fault.carries_exact.mp (by rfl)
  have entries : Program.entries (execute (failingAround takenStatus) sampleRequest []).2.events =
      [⟨.info,text "run",category,
          text "dispatch exec: \"python3 -u main.py 'it'\\\\''s $x'\" (dir=/w)"⟩,
        ⟨.error,text "run",category,text "child could not be started: exit status 127"⟩] := by rfl
  refine ⟨failing_answered takenStatus,carried,fun law => ?_,fun law => ?_⟩
  · apply carried.solid
    apply law.mp
    refine ⟨⟨.error,text "run",category,text "child could not be started: exit status 127"⟩,?_,rfl,
      text ": exit status 127",by rfl⟩
    rw [entries]
    simp
  · obtain ⟨entry,present,warn,-⟩ := law.mpr carried.solid
    rw [entries] at present
    simp only [List.mem_cons,List.not_mem_nil,or_false] at present
    rcases present with rfl | rfl <;> cases warn

end Launch

end ScriptLauncher
