import ScriptLauncher.Proofs.Plan

namespace ScriptLauncher

-- Only misuse of the arguments and a request to end with a code are treated apart when a run ends.
-- A plain fault is neither, so it is the one that gets printed.
def Cause.Plain (cause : Cause) : Prop := cause.isUsage = false ∧ cause.exitRequest? = none

def Fault.Plain (fault : Fault) : Prop := ∀ cause ∈ fault.causes, cause.Plain

namespace Fault

theorem plain_of {cause : Cause} (plain : cause.Plain) : (Fault.of cause).Plain := by
  intro other present
  simp only [causes,List.mem_singleton] at present
  rw [present]
  exact plain

theorem Plain.within {inner : Fault} (plain : inner.Plain) (before after : Bytes) :
    (Fault.within before inner after).Plain := by
  intro cause present
  exact plain cause (by simpa [causes] using present)

theorem Plain.context {inner : Fault} (plain : inner.Plain) (note : Bytes) :
    (Fault.context note inner).Plain :=
  plain.within note []

theorem Plain.not_usage {fault : Fault} (plain : fault.Plain) : fault.isUsage = false := by
  unfold isUsage
  rw [List.any_eq_false]
  intro cause present
  simp [(plain cause present).1]

theorem Plain.no_request {fault : Fault} (plain : fault.Plain) : fault.exitRequest? = none := by
  unfold exitRequest?
  rw [List.findSome?_eq_none_iff]
  exact fun cause present => (plain cause present).2

end Fault

-- What the outside has to answer for: a place that gives nothing, or a text that cannot be read.
inductive Cause.Outer : Cause → Prop where
  | absent : Cause.Outer .absent
  | configNotFound : Cause.Outer .configNotFound
  | refused (how : Refusal) : Cause.Outer (.refused how)
  | malformed (detail : Bytes) : Cause.Outer (.malformed detail)
  | unterminated (what : Unterminated) : Cause.Outer (.unterminated what)
  | other (note : Bytes) : Cause.Outer (.other note)

def Fault.Outer (fault : Fault) : Prop := ∀ cause ∈ fault.causes, cause.Outer

theorem Cause.Outer.plain {cause : Cause} (outer : cause.Outer) : cause.Plain := by
  cases outer <;> exact ⟨rfl,rfl⟩

namespace Fault

theorem outer_of {cause : Cause} (outer : cause.Outer) : (Fault.of cause).Outer := by
  intro other present
  simp only [causes,List.mem_singleton] at present
  rw [present]
  exact outer

theorem Outer.context {inner : Fault} (outer : inner.Outer) (note : Bytes) :
    (Fault.context note inner).Outer := by
  intro cause present
  exact outer cause (by simpa [Fault.context,causes] using present)

theorem Outer.plain {fault : Fault} (outer : fault.Outer) : fault.Plain :=
  fun cause present => (outer cause present).plain

end Fault

theorem Host.refused_outer (action path : Bytes) (how : Refusal) :
    (Host.refused action path how).Outer :=
  (Fault.outer_of (.refused how)).context _

theorem Host.read_outer {host : Host} {path : Bytes} {fault : Fault}
    (failed : host.read path = .error fault) : fault.Outer := by
  unfold Host.read at failed
  split at failed
  · cases failed
  · cases failed
    exact Host.refused_outer _ _ _
  · cases failed
    exact Host.refused_outer _ _ _

theorem Host.workingDirectory_plain {host : Host} {fault : Fault}
    (failed : host.workingDirectory = .error fault) : fault.Plain := by
  unfold Host.workingDirectory at failed
  split at failed
  · cases failed
    exact (Fault.plain_of ⟨rfl,rfl⟩).context _
  · dsimp only at failed
    split at failed
    · split at failed
      · cases failed
      · cases failed
    · cases failed

namespace Settings

theorem loadFile_outer {decoders : Decoders} {host : Host} {path : Bytes} {fault : Fault}
    (failed : loadFile decoders host path = .error fault) : fault.Outer := by
  unfold loadFile at failed
  cases read : host.read path with
  | error inner =>
    simp only [read] at failed
    cases failed
    exact Host.read_outer read
  | ok data =>
    simp only [read] at failed
    split at failed
    · cases failed
      exact (Fault.outer_of (.malformed _)).context _
    · cases failed

theorem loadFirst_outer {decoders : Decoders} {host : Host} {paths : List Bytes} {fault : Fault}
    (failed : loadFirst decoders host paths = .error fault) : fault.Outer := by
  induction paths with
  | nil =>
    cases failed
    exact Fault.outer_of .absent
  | cons path rest ih =>
    unfold loadFirst at failed
    cases load : loadFile decoders host path with
    | ok settings => simp [load] at failed
    | error inner =>
      simp only [load] at failed
      split at failed
      · exact ih failed
      · cases failed
        exact loadFile_outer load

theorem loadGlobal_outer {decoders : Decoders} {sources : Sources} {host : Host} {fault : Fault}
    (failed : loadGlobal decoders sources host = .error fault) : fault.Outer := by
  unfold loadGlobal at failed
  split at failed
  · cases failed
    exact Fault.outer_of .absent
  · exact loadFile_outer failed

theorem loadProject_outer {decoders : Decoders} {sources : Sources} {host : Host} {fault : Fault}
    (failed : loadProject decoders sources host = .error fault) : fault.Outer := by
  unfold loadProject at failed
  split at failed
  · cases load : loadFile decoders host sources.explicitPath with
    | ok settings => simp [load] at failed
    | error inner =>
      simp only [load] at failed
      split at failed
      · cases failed
        exact (Fault.outer_of .configNotFound).context _
      · cases failed
        exact loadFile_outer load
  · split at failed
    · cases failed
      exact Fault.outer_of .absent
    · exact loadFirst_outer failed

theorem optional_error {layer : Except Fault Settings} {fault : Fault}
    (failed : optional layer = .error fault) : layer = .error fault := by
  unfold optional at failed
  split at failed
  · cases failed
  · split at failed
    · cases failed
    · cases failed
      rfl

theorem load_outer {decoders : Decoders} {sources : Sources} {host : Host} {fault : Fault}
    (failed : load decoders sources host = .error fault) : fault.Outer := by
  unfold load at failed
  split at failed
  · rename_i globalFault globalFailed
    cases failed
    exact loadGlobal_outer (optional_error globalFailed)
  · split at failed
    · rename_i projectFault projectFailed
      cases failed
      exact loadProject_outer (optional_error projectFailed)
    · cases failed

end Settings

theorem LauncherSettings.check_plain {launcher : LauncherSettings} {fault : Fault}
    (failed : launcher.check = .error fault) : fault.Plain := by
  unfold LauncherSettings.check at failed
  split at failed
  · cases failed
    exact Fault.plain_of ⟨rfl,rfl⟩
  · split at failed
    · cases failed
      exact Fault.plain_of ⟨rfl,rfl⟩
    · split at failed
      · cases failed
      · cases failed
        exact (Fault.plain_of ⟨rfl,rfl⟩).within _ _

theorem LineRules.standard_outer {line : Bytes} {fault : Fault}
    (failed : LineRules.standard.split line = .error fault) : fault.Outer := by
  simp only [LineRules.standard] at failed
  cases read : Words.split line with
  | ok words =>
    rw [read] at failed
    cases failed
  | error open_ =>
    rw [read] at failed
    cases failed
    exact (Fault.outer_of (.unterminated _)).context _

theorem Dotenv.load_outer {host : Host} {path : Bytes} {fault : Fault}
    (failed : Dotenv.load host path = .error fault) : fault.Outer := by
  simp only [Dotenv.load] at failed
  cases read : host.read path with
  | error inner =>
    simp only [read,Except.error.injEq] at failed
    subst failed
    exact (Host.read_outer read).context _
  | ok data =>
    cases parsed : Dotenv.parse data with
    | ok vars =>
      simp only [read,parsed] at failed
      cases failed
    | error flaw =>
      simp only [read,parsed] at failed
      cases failed
      exact (Fault.outer_of (.other _)).context _

theorem Launch.plan_plain {σ : Type} {around : Surroundings σ} (standard : around.rules = .standard)
    {launcher : LauncherSettings} {mode : Mode} {script : Script} {filename : Bytes} {fault : Fault}
    (failed : plan around launcher mode script filename = .error fault) : fault.Plain := by
  obtain ⟨-,⟨inner,read,rfl⟩ | ⟨-,rfl⟩⟩ := plan_fails_exact.mp failed
  · rw [standard] at read
    exact ((LineRules.standard_outer read).context _).plain
  · exact Fault.plain_of ⟨rfl,rfl⟩

theorem Log.Level.check_plain {name : Bytes} {fault : Fault}
    (failed : Log.Level.check name = .error fault) : fault.Plain := by
  unfold Log.Level.check at failed
  split at failed
  · cases failed
  · cases failed
    exact (Fault.plain_of ⟨rfl,rfl⟩).within _ _

theorem Options.switch_plain {lookup : Bytes → Option Bytes} {name : Bytes} {fault : Fault}
    (failed : Options.switch lookup name = .error fault) : fault.Plain := by
  unfold Options.switch at failed
  split at failed
  · cases failed
  · cases failed
  · split at failed
    · cases failed
    · cases failed
      exact (Fault.plain_of ⟨rfl,rfl⟩).within _ _

theorem Options.ofEnvironment_plain {lookup : Bytes → Option Bytes} {fault : Fault}
    (failed : Options.ofEnvironment lookup = .error fault) : fault.Plain := by
  unfold Options.ofEnvironment at failed
  split at failed
  · rename_i inner switched
    cases failed
    exact Options.switch_plain switched
  · split at failed
    · rename_i inner switched
      cases failed
      exact Options.switch_plain switched
    · split at failed
      · rename_i inner switched
        cases failed
        exact Options.switch_plain switched
      · cases failed

end ScriptLauncher
