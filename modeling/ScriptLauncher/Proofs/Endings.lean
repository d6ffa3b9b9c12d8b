import Mathlib.Data.List.Forall2
import ScriptLauncher.Proofs.ExitCode

namespace ScriptLauncher

namespace Fault

mutual

theorem mem_preorder (cause : Cause) :
    (fault : Fault) → (.of cause ∈ fault.preorder ↔ cause ∈ fault.causes)
  | .of other => by simp [preorder,causes]
  | .within before inner after => by simpa [preorder,causes] using mem_preorder cause inner
  | .all faults => by simpa [preorder,causes] using mem_preorderOfAll cause faults

theorem mem_preorderOfAll (cause : Cause) :
    (faults : List Fault) → (.of cause ∈ preorderOfAll faults ↔ cause ∈ causesOfAll faults)
  | [] => by simp [preorderOfAll,causesOfAll]
  | fault :: faults => by
    simp [preorderOfAll,causesOfAll,mem_preorder cause fault,mem_preorderOfAll cause faults]

end

-- The first request in a fault is for this code.
def Requests (fault : Fault) (code : Int) : Prop :=
  ∃ before after, fault.preorder = before ++ .of (.exitRequest code) :: after ∧
    ∀ other, .of (.exitRequest other) ∉ before

theorem isUsage_exact {fault : Fault} : fault.isUsage = true ↔ .of .usage ∈ fault.preorder := by
  rw [isUsage,List.any_eq_true,mem_preorder]
  constructor
  · rintro ⟨cause,present,misuse⟩
    cases cause <;> cases misuse
    exact present
  · intro present
    exact ⟨_,present,rfl⟩

theorem own_request {fault : Fault} {code : Int} :
    own Cause.exitRequest? fault = some code ↔ fault = .of (.exitRequest code) := by
  cases fault with
  | of cause => cases cause <;> simp [own,Cause.exitRequest?]
  | within before inner after => simp [own]
  | all faults => simp [own]

theorem own_requestless {fault : Fault} :
    own Cause.exitRequest? fault = none ↔ ∀ code, fault ≠ .of (.exitRequest code) := by
  rw [Option.eq_none_iff_forall_ne_some]
  exact forall_congr' fun code => not_congr own_request

theorem requests_exact {fault : Fault} {code : Int} :
    fault.exitRequest? = some code ↔ fault.Requests code := by
  rw [exitRequest?,← findSome_preorder,List.findSome?_eq_some_iff]
  constructor
  · rintro ⟨before,here,after,whole,request,earlier⟩
    obtain rfl := own_request.mp request
    exact ⟨before,after,whole,fun other present => own_requestless.mp (earlier _ present) other rfl⟩
  · rintro ⟨before,after,whole,earlier⟩
    refine ⟨before,_,after,whole,rfl,fun fault present => own_requestless.mpr ?_⟩
    rintro other rfl
    exact earlier other present

theorem requestless_exact {fault : Fault} :
    fault.exitRequest? = none ↔ ∀ code, .of (.exitRequest code) ∉ fault.preorder := by
  rw [exitRequest?,← findSome_preorder,List.findSome?_eq_none_iff]
  constructor
  · intro quiet code present
    exact own_requestless.mp (quiet _ present) code rfl
  · intro none_ fault present
    refine own_requestless.mpr ?_
    rintro code rfl
    exact none_ code present

-- Context around a fault, layer upon layer: what stands before it and what after it.
def wrapped (layers : List (Bytes × Bytes)) (fault : Fault) : Fault :=
  layers.foldr (fun layer inner => .within layer.1 inner layer.2) fault

end Fault

namespace Program

-- What a run that went wrong comes to.
inductive Judgment where
  | misuse
  | request (code : Int)
  | failure
  deriving DecidableEq

-- Misuse anywhere in a fault comes before a request, and a request before a failure.
inductive Judged (fault : Fault) : Judgment → Prop where
  | misuse (misused : .of .usage ∈ fault.preorder) : Judged fault .misuse
  | request (used : .of .usage ∉ fault.preorder) (first : fault.Requests code) :
      Judged fault (.request code)
  | failure (used : .of .usage ∉ fault.preorder)
      (unasked : ∀ code, .of (.exitRequest code) ∉ fault.preorder) : Judged fault .failure

namespace Judgment

def ending (program : Bytes) (colored : Bool) (message : Bytes) : Judgment → Ending
  | .misuse => ⟨1,usageText program,[]⟩
  | .request code => ⟨code,[],[]⟩
  | .failure => ⟨1,[],faultText colored message⟩

-- One fault and then others: misuse counts wherever it is, and else the first that is more than a
-- failure.
def andThen : Judgment → Judgment → Judgment
  | .misuse,_ => .misuse
  | .failure,later => later
  | .request _,.misuse => .misuse
  | .request code,_ => .request code

def ofAll (judgments : List Judgment) : Judgment := judgments.foldr andThen .failure

end Judgment

-- The judgment as a run finds it.
def judgment (fault : Fault) : Judgment :=
  if fault.isUsage then .misuse
  else match fault.exitRequest? with
    | some code => .request code
    | none => .failure

theorem judged_judgment (fault : Fault) : Judged fault (judgment fault) := by
  unfold judgment
  split
  · rename_i misused
    exact .misuse (Fault.isUsage_exact.mp misused)
  · rename_i used
    have used := mt Fault.isUsage_exact.mpr used
    split
    · rename_i asked
      exact .request used (Fault.requests_exact.mp asked)
    · rename_i unasked
      exact .failure used (Fault.requestless_exact.mp unasked)

theorem judged_exact {fault : Fault} {found : Judgment} :
    Judged fault found ↔ judgment fault = found := by
  constructor
  · intro judged
    unfold judgment
    cases judged with
    | misuse misused => rw [if_pos (Fault.isUsage_exact.mpr misused)]
    | request used first =>
      rw [if_neg (mt Fault.isUsage_exact.mp used),Fault.requests_exact.mpr first]
    | failure used unasked =>
      rw [if_neg (mt Fault.isUsage_exact.mp used),Fault.requestless_exact.mpr unasked]
  · rintro rfl
    exact judged_judgment fault

theorem ending_judged (fault : Fault) (program : Bytes) (colored : Bool) :
    ending (some fault) program colored =
      (judgment fault).ending program colored fault.message := by
  cases used : fault.isUsage with
  | true => simp [ending,judgment,used,Judgment.ending,usageLine_exact]
  | false =>
    cases asked : fault.exitRequest? with
    | some code => simp [ending,judgment,used,asked,Judgment.ending]
    | none => simp only [ending,judgment,used,asked,Judgment.ending,errorLabel_exact,
        Bool.false_eq_true,if_false]

theorem judgment_wrapped (layers : List (Bytes × Bytes)) (fault : Fault) :
    judgment (fault.wrapped layers) = judgment fault := by
  induction layers with
  | nil => rfl
  | cons layer rest ih => exact ih

theorem judgment_cons (fault : Fault) (faults : List Fault) :
    judgment (.all (fault :: faults)) = (judgment fault).andThen (judgment (.all faults)) := by
  have misuse : (Fault.all (fault :: faults)).isUsage =
      (fault.isUsage || (Fault.all faults).isUsage) := List.any_append
  have request : (Fault.all (fault :: faults)).exitRequest? =
      fault.exitRequest?.or (Fault.all faults).exitRequest? := List.findSome?_append
  unfold judgment
  rw [misuse,request]
  cases fault.isUsage <;> cases (Fault.all faults).isUsage <;> cases fault.exitRequest? <;>
    cases (Fault.all faults).exitRequest? <;> rfl

theorem judgment_all (faults : List Fault) :
    judgment (.all faults) = .ofAll (faults.map judgment) := by
  induction faults with
  | nil => rfl
  | cons fault rest ih =>
    rw [judgment_cons,ih]
    rfl

-- A run that went wrong ends in exactly one of three ways, and the causes in its fault say in which.
-- Context around a fault changes at most the text that is printed. Of several faults that are
-- reported as one, misuse in any of them decides, and else the first that asks for a code. The
-- status of a child is no such request.
theorem fault_decides_ending :
    (∀ fault, ∃ found, Judged fault found ∧ (∀ other, Judged fault other → other = found) ∧
      ∀ layers program colored, Judged (fault.wrapped layers) found ∧
        ending (some (fault.wrapped layers)) program colored =
          found.ending program colored (fault.wrapped layers).message) ∧
    (∀ faults found, List.Forall₂ Judged faults found → Judged (.all faults) (.ofAll found)) ∧
    (∀ cause code, cause.childStatus? = some code → Judged (.of cause) .failure) ∧
    ∀ program message, Judgment.failure.ending program false message =
      ⟨1,[],text "error: " ++ message ++ text "\n"⟩ := by
  refine ⟨fun fault => ?_,fun faults found judged => ?_,fun cause code told => ?_,
    fun program message => ?_⟩
  · refine ⟨judgment fault,judged_judgment fault,fun other judged => (judged_exact.mp judged).symm,
      fun layers program colored => ⟨judged_exact.mpr (judgment_wrapped layers fault),?_⟩⟩
    rw [ending_judged,judgment_wrapped]
  · have each : faults.map judgment = found := by
      induction judged with
      | nil => rfl
      | cons first _ ih => rw [List.map_cons,judged_exact.mp first,ih]
    rw [judged_exact,judgment_all,each]
  · cases cause <;> cases told <;> exact judged_exact.mpr rfl
  · rfl

-- The status of a child, two requests in context, and misuse behind them.
def mixedFaults : List Fault :=
  [.context (text "run: ") (.of (.childStatus 3)),
    .all [.of .absent,.context (text "again: ") (.of (.exitRequest 7))],.of (.exitRequest 9)]

def misusedFaults : List Fault := mixedFaults ++ [.context (text "late: ") (.of .usage)]

theorem misuse_behind_requests_decides :
    ending (some (.all mixedFaults)) (text "orion") false = ⟨7,[],[]⟩ ∧
      ending (some (.all misusedFaults)) (text "orion") false =
        ⟨1,text "Usage: orion <orion-filename>\n",[]⟩ := by
  obtain ⟨each,joined,-,-⟩ := fault_decides_ending
  have mixed : List.Forall₂ Judged mixedFaults [.failure,.request 7,.request 9] :=
    .cons (judged_exact.mpr rfl) (.cons (judged_exact.mpr rfl) (.cons (judged_exact.mpr rfl) .nil))
  have misused : List.Forall₂ Judged misusedFaults [.failure,.request 7,.request 9,.misuse] :=
    .cons (judged_exact.mpr rfl) (.cons (judged_exact.mpr rfl) (.cons (judged_exact.mpr rfl)
      (.cons (judged_exact.mpr rfl) .nil)))
  obtain ⟨first,-,only,ends⟩ := each (.all mixedFaults)
  obtain ⟨second,-,alone,closes⟩ := each (.all misusedFaults)
  obtain rfl := only _ (joined _ _ mixed)
  obtain rfl := alone _ (joined _ _ misused)
  exact ⟨(ends [] _ _).2,(closes [] _ _).2.trans (by rfl)⟩

end Program

end ScriptLauncher
