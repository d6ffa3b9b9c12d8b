import ScriptLauncher.Proofs.Wording

namespace ScriptLauncher

theorem singleArgument_exact {args : List Bytes} {filename : Bytes} :
    singleArgument args = .ok filename ↔ args = [filename] := by
  constructor
  · intro checked
    unfold singleArgument at checked
    split at checked
    · cases checked; rfl
    · cases checked
  · rintro rfl
    rfl

theorem singleArgument_fails {args : List Bytes} (wrong : args.length ≠ 1) :
    ∃ fault, singleArgument args = .error fault ∧ fault.isUsage = true := by
  unfold singleArgument
  split
  · simp at wrong
  · exact ⟨_,rfl,rfl⟩

namespace Launch

variable {σ : Type}

-- The checks that come before a plan, once all of them have passed.
structure Ready (around : Surroundings σ) (request : Request) (state : σ) (filename : Bytes)
    (settings : Settings) (mode : Mode) : Prop where
  single : request.args = [filename]
  loaded : around.settings state = .ok settings
  checked : (effective settings request).check = .ok mode

def located (around : Surroundings σ) (request : Request) (state : σ) (settings : Settings) :
    Script × Progress σ :=
  locateScript around (effective settings request) (warned state settings)

-- The plan of a launch that is ready.
def planned (around : Surroundings σ) (request : Request) (state : σ) (filename : Bytes)
    (settings : Settings) (mode : Mode) : Except Fault Invocation :=
  plan around (effective settings request) mode (located around request state settings).1 filename

def equipped (around : Surroundings σ) (request : Request) (state : σ) (settings : Settings)
    (inv : Invocation) : Except Fault Command × Progress σ :=
  withVariables around (effective settings request) (command (effective settings request) inv)
    (located around request state settings).2

-- Every way in which a launch can go, with all that was decided on the way. The rules name the
-- guards; none of them mentions what later theorems say about events or states.
inductive Course (around : Surroundings σ) (request : Request) (state : σ) :
    Except Fault Report → Progress σ → Prop where
  | misused (wrong : singleArgument request.args = .error fault) :
      Course around request state (.error fault) ⟨state,[]⟩
  | unloaded (single : request.args = [filename]) (failed : around.settings state = .error fault) :
      Course around request state (.error (.context (text "load config: ") fault)) ⟨state,[]⟩
  | rejected (single : request.args = [filename]) (loaded : around.settings state = .ok settings)
      (failed : (effective settings request).check = .error fault) :
      Course around request state (.error fault) (warned state settings)
  | unplanned (ready : Ready around request state filename settings mode)
      (failed : planned around request state filename settings mode = .error fault) :
      Course around request state (.error fault) (located around request state settings).2
  | previewed (ready : Ready around request state filename settings mode)
      (decided : planned around request state filename settings mode = .ok inv)
      (dry : request.dryRun = true) :
      Course around request state (.ok { invocation := inv })
        (((located around request state settings).2.log around (dryRunEntry inv)).note
          (.output (inv.commandLine ++ text "\n")))
  | unequipped (ready : Ready around request state filename settings mode)
      (decided : planned around request state filename settings mode = .ok inv)
      (real : request.dryRun = false)
      (failed : equipped around request state settings inv = (.error fault,after)) :
      Course around request state (.error fault) after
  | dispatched (ready : Ready around request state filename settings mode)
      (decided : planned around request state filename settings mode = .ok inv)
      (real : request.dryRun = false)
      (given : equipped around request state settings inv = (.ok cmd,after)) :
      Course around request state (.ok (dispatch around (effective settings request) inv cmd after).1)
        (dispatch around (effective settings request) inv cmd after).2

theorem execute_complete {around : Surroundings σ} {request : Request} {state : σ}
    {result : Except Fault Report} {p : Progress σ} (course : Course around request state result p) :
    execute around request state = (result,p) := by
  cases course with
  | misused wrong => simp [execute,wrong]
  | unloaded single failed => simp [execute,single,singleArgument,failed]
  | rejected single loaded failed => simp [execute,single,singleArgument,loaded,failed]
  | unplanned ready failed =>
    obtain ⟨single,loaded,checked⟩ := ready
    unfold planned located at failed
    simp [execute,single,singleArgument,loaded,checked,carryOut,failed,located]
  | previewed ready decided dry =>
    obtain ⟨single,loaded,checked⟩ := ready
    unfold planned located at decided
    simp [execute,single,singleArgument,loaded,checked,carryOut,decided,dry,located]
  | unequipped ready decided real failed =>
    obtain ⟨single,loaded,checked⟩ := ready
    unfold planned located at decided
    unfold equipped located at failed
    simp [execute,single,singleArgument,loaded,checked,carryOut,decided,real,failed]
  | dispatched ready decided real given =>
    obtain ⟨single,loaded,checked⟩ := ready
    unfold planned located at decided
    unfold equipped located at given
    simp [execute,single,singleArgument,loaded,checked,carryOut,decided,real,given]

theorem course_exists (around : Surroundings σ) (request : Request) (state : σ) :
    ∃ result p, Course around request state result p := by
  cases argument : singleArgument request.args with
  | error fault => exact ⟨_,_,.misused argument⟩
  | ok filename =>
    have single := singleArgument_exact.mp argument
    cases load : around.settings state with
    | error fault => exact ⟨_,_,.unloaded single load⟩
    | ok settings =>
      cases check : (effective settings request).check with
      | error fault => exact ⟨_,_,.rejected single load check⟩
      | ok mode =>
        have ready : Ready around request state filename settings mode := ⟨single,load,check⟩
        cases decided : planned around request state filename settings mode with
        | error fault => exact ⟨_,_,.unplanned ready decided⟩
        | ok inv =>
          cases dry : request.dryRun with
          | true => exact ⟨_,_,.previewed ready decided dry⟩
          | false =>
            cases given : equipped around request state settings inv with
            | mk outcome after =>
              cases outcome with
              | error fault => exact ⟨_,_,.unequipped ready decided dry given⟩
              | ok cmd => exact ⟨_,_,.dispatched ready decided dry given⟩

theorem execute_exact {around : Surroundings σ} {request : Request} {state : σ}
    {result : Except Fault Report} {p : Progress σ} :
    execute around request state = (result,p) ↔ Course around request state result p := by
  constructor
  · intro ran
    obtain ⟨other,q,course⟩ := course_exists around request state
    have same := execute_complete course
    rw [ran] at same
    cases same
    exact course
  · exact execute_complete

end Launch

end ScriptLauncher
