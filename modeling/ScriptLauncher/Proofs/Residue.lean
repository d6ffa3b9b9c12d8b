import ScriptLauncher.Proofs.Appending
import ScriptLauncher.Proofs.ExitCode
import ScriptLauncher.Proofs.Layers

namespace ScriptLauncher

namespace Launch

variable {σ : Type}

-- However a launch goes, the outside comes to what its events make of it.
theorem execute_replays (around : Surroundings σ) (request : Request) (state : σ) :
    (execute around request state).2.state =
      replay around state (execute around request state).2.events := by
  obtain ⟨result,p,course⟩ := course_exists around request state
  rw [execute_complete course]
  dsimp only
  cases course with
  | misused wrong => rfl
  | unloaded single failed => rfl
  | rejected single loaded failed => exact (Program.account_warned around state _).reached
  | unplanned ready failed => exact (Program.account_located around request state _).reached
  | previewed ready decided dry => exact (Program.account_previewed around request state _ _).reached
  | unequipped ready decided real failed => exact (Program.account_equipped failed).reached
  | dispatched ready decided real given => exact (Program.account_dispatched given _).reached

-- A logger and the host of its file as parts of the outside: recording is what the logger does, and
-- commands leave both alone.
structure Logs (around : Surroundings σ) (time : Log.Moment) (view : σ → Log.Logger × Host) :
    Prop where
  record : ∀ entry state,
    view (around.record entry state) = (view state).1.record time entry (view state).2
  run : ∀ cmd state, view (around.run cmd state).2 = view state

section

variable {around : Surroundings σ} {time : Log.Moment} {view : σ → Log.Logger × Host}

theorem Logs.replay (logs : Logs around time view) (state : σ) (events : List Event) :
    view (replay around state events) =
      (view state).1.recordAll time (Program.entries events) (view state).2 := by
  induction events generalizing state with
  | nil => rfl
  | cons event rest ih =>
    cases event with
    | logged entry =>
      have later := ih (around.record entry state)
      rw [logs.record] at later
      exact later
    | dispatched cmd =>
      have later := ih (around.run cmd state).2
      rw [logs.run] at later
      exact later
    | output line => exact ih state
    | warning line => exact ih state
    | lookedUp dir => exact ih state
    | readVariables path => exact ih state

theorem Logs.execute (logs : Logs around time view) (request : Request) (state : σ) :
    view (execute around request state).2.state = (view state).1.recordAll time
      (Program.entries (execute around request state).2.events) (view state).2 := by
  rw [execute_replays,logs.replay]

end

end Launch

namespace Program
open Launch

-- A log beside the working directory, found by a relative path, and a child that fails.
def loggedPlace : Host :=
  let placed := Host.put ⟨.empty,none,[]⟩ (text "/s/orion/logs/orion.log") (text "old\n") 0o640
  (placed.makeDirectory (text "/w")).changeDirectory (text "/w")

theorem loggedPlace_sound : loggedPlace.files.Sound :=
  (((Host.Sound.put Host.bare_sound ..).makeDirectory _).changeDirectory _).files

theorem loggedPlace_openable :
    Log.Openable (text "../s/orion") loggedPlace 0 loggedPlace.files :=
  ⟨loggedPlace.files,by rfl,by rfl⟩

end Program

end ScriptLauncher
