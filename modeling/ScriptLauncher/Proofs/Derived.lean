import Mathlib.Data.List.Forall2
import ScriptLauncher.Log
import ScriptLauncher.Proofs.Paths

namespace ScriptLauncher

namespace Path

-- Names behind a directory that is written in the shortest way: nothing stands for the working
-- directory, and the root brings its own slash.
def under (dir : Bytes) (names : List Bytes) : Bytes :=
  if dir = dot then Bytes.join [Bytes.slash] names
  else if dir = [Bytes.slash] then Bytes.slash :: Bytes.join [Bytes.slash] names
  else dir ++ Bytes.slash :: Bytes.join [Bytes.slash] names

-- The components that a path in its shortest form goes through, with an empty one for the root.
def steps (path : Bytes) : List Bytes :=
  if path = dot then []
  else if path = [Bytes.slash] then [[]]
  else components path

theorem steps_long {path : Bytes} (long : 1 < path.length) : steps path = components path := by
  have apart (b : UInt8) : path ≠ [b] := by
    rintro rfl
    exact absurd long (by simp)
  rw [steps,dot,if_neg (apart _),if_neg (apart _)]

section

variable {rooted : Bool} {parts : List Bytes} {climbs : Nat} {names : List Bytes}

theorem Settled.clean (settled : Settled rooted parts climbs names) :
    Path.clean (render rooted parts) = render rooted parts := by
  obtain ⟨absolute,reduced⟩ := settled.reads
  rw [Path.clean,absolute,reduced]

-- Only a path of no components is written as one byte.
theorem Settled.apart (settled : Settled rooted parts climbs names) (some_ : parts ≠ []) :
    render rooted parts ≠ dot ∧ render rooted parts ≠ [Bytes.slash] := by
  have read (path : Bytes) (same : render rooted parts = path) :
      parts = Path.reduce (isAbsolute path) (Path.components path) := by
    obtain ⟨absolute,reduced⟩ := settled.reads
    rw [← same,absolute,reduced]
  exact ⟨fun same => some_ ((read dot same).trans (by decide)),
    fun same => some_ ((read [Bytes.slash] same).trans (by decide))⟩

theorem Settled.steps (settled : Settled rooted parts climbs names) :
    Path.steps (render rooted parts) = (if rooted then [[]] else []) ++ parts := by
  by_cases empty : parts = []
  · rw [empty]
    cases rooted <;> rfl
  · obtain ⟨relative,inner⟩ := settled.apart empty
    rw [Path.steps,if_neg relative,if_neg inner,settled.components empty]

theorem Settled.under (settled : Settled rooted parts climbs names) {more : List Bytes}
    (some_ : more ≠ []) : render rooted (parts ++ more) = Path.under (render rooted parts) more := by
  by_cases empty : parts = []
  · rw [empty]
    cases rooted with
    | true => rfl
    | false => simp [render,some_,Path.under]
  · obtain ⟨relative,inner⟩ := settled.apart empty
    rw [Path.under,if_neg relative,if_neg inner]
    cases rooted with
    | true => simp [render,Bytes.join_append _ empty some_]
    | false => simp [render,empty,Bytes.join_append _ empty some_]

-- A doubled slash would have an empty component in it that is not the first.
theorem Settled.undoubled (settled : Settled rooted parts climbs names) :
    ¬[Bytes.slash,Bytes.slash] <:+: render rooted parts := by
  rintro ⟨front,back,whole⟩
  have long : 1 < (render rooted parts).length := by
    simp only [← whole,List.length_append,List.length_cons]
    omega
  have cut : Path.components (render rooted parts) =
      Path.components front ++ [] :: Path.components back := by
    have apart : front ++ [Bytes.slash,Bytes.slash] ++ back =
        front ++ Bytes.slash :: Bytes.slash :: back := by simp
    rw [← whole,apart,Path.components,Bytes.splitOn_append]
    rfl
  have listed := settled.steps
  rw [steps_long long,cut] at listed
  have later : [] ∈ ((if rooted then [[]] else []) ++ parts).tail := by
    have begun : Path.components front ≠ [] := Bytes.splitOn_ne_nil Bytes.slash front
    rw [← listed,List.tail_append_of_ne_nil begun]
    simp
  have inside : [] ∈ parts := by
    cases rooted with
    | true => exact later
    | false => exact List.mem_of_mem_tail later
  exact (settled.each [] inside).1 rfl

theorem Settled.undotted (settled : Settled rooted parts climbs names) :
    ¬[46,Bytes.slash] <+: render rooted parts := by
  rintro ⟨back,whole⟩
  have long : 1 < (render rooted parts).length := by simp [← whole]
  have cut : Path.components (render rooted parts) = dot :: Path.components back := by
    rw [← whole]
    exact Bytes.splitOn_append Bytes.slash dot back
  have listed := settled.steps
  rw [steps_long long,cut] at listed
  cases rooted with
  | true => cases listed
  | false =>
    have first : dot :: Path.components back = parts := listed
    have inside : dot ∈ parts := first ▸ List.mem_cons_self
    rw [settled.shape] at inside
    rcases List.mem_append.mp inside with climb | name
    · exact absurd (List.mem_replicate.mp climb).2 (by decide)
    · exact (settled.named dot name).notDot rfl

end

section

variable {names : List Bytes}

theorem join_under (dir : Bytes) (some_ : names ≠ []) (named : ∀ name ∈ names, Name name) :
    join (dir :: names) = under (clean dir) names := by
  obtain ⟨climbs,inner,settled⟩ := reduce_settled (isAbsolute dir) dir
  rw [join_names dir some_ named,settled.under some_]
  rfl

-- Joining in two goes is joining in one.
theorem join_join (dir : Bytes) (some_ : names ≠ []) (named : ∀ name ∈ names, Name name)
    {more : List Bytes} (more_ : more ≠ []) (moreNamed : ∀ name ∈ more, Name name) :
    join (join (dir :: names) :: more) = join (dir :: (names ++ more)) := by
  obtain ⟨climbs,inner,settled⟩ := reduce_settled (isAbsolute dir) dir
  obtain ⟨absolute,reduced⟩ := (settled.append named).reads
  have all : ∀ name ∈ names ++ more, Name name := List.forall_mem_append.mpr ⟨named,moreNamed⟩
  rw [join_names _ more_ moreNamed,join_names dir some_ named,absolute,reduced,
    join_names dir (by simp [some_]) all,List.append_assoc]

-- Names behind a directory do not hide which directory it is.
theorem join_exact {dir other : Bytes} (some_ : names ≠ []) (named : ∀ name ∈ names, Name name) :
    join (other :: names) = join (dir :: names) ↔ clean other = clean dir := by
  constructor
  · intro same
    obtain ⟨climbs,inner,settled⟩ := reduce_settled (isAbsolute dir) dir
    obtain ⟨otherClimbs,otherInner,otherSettled⟩ := reduce_settled (isAbsolute other) other
    rw [join_names dir some_ named,join_names other some_ named] at same
    obtain ⟨absolute,reduced⟩ := (settled.append named).reads
    obtain ⟨otherAbsolute,otherReduced⟩ := (otherSettled.append named).reads
    rw [same] at otherAbsolute otherReduced
    have rooted : isAbsolute other = isAbsolute dir := otherAbsolute.symm.trans absolute
    rw [rooted,reduced] at otherReduced
    rw [clean,clean,rooted,List.append_cancel_right otherReduced]
  · intro same
    rw [join_under other some_ named,join_under dir some_ named,same]

-- A path that consists of a directory, in its shortest form, and of names in it.
structure Below (dir : Bytes) (names : List Bytes) (path : Bytes) : Prop where
  clean : Path.clean path = path
  placed : path = under (Path.clean dir) names
  components : Path.components path = steps (Path.clean dir) ++ names
  undotted : ¬[46,Bytes.slash] <+: path
  undoubled : ¬[Bytes.slash,Bytes.slash] <:+: path

theorem join_below (dir : Bytes) (some_ : names ≠ []) (named : ∀ name ∈ names, Name name) :
    Below dir names (join (dir :: names)) := by
  obtain ⟨climbs,inner,settled⟩ := reduce_settled (isAbsolute dir) dir
  have whole := settled.append named
  have placed := join_under dir some_ named
  have parts := whole.components (by simp [some_])
  rw [join_names dir some_ named] at placed ⊢
  refine ⟨whole.clean,placed,?_,whole.undotted,whole.undoubled⟩
  rw [parts,Path.clean,settled.steps,List.append_assoc]

end

end Path

-- What the launcher looks for in a directory, or keeps there.
inductive Derived where
  | settingsDir
  | settingsFile
  | projectFiles
  | stateDir
  | logFile

namespace Derived

def paths (dir : Bytes) : Derived → List Bytes
  | .settingsDir => [Settings.globalDir dir]
  | .settingsFile => [Settings.globalPath dir]
  | .projectFiles => Settings.candidates dir
  | .stateDir => [Log.stateDir dir]
  | .logFile => [Log.path dir]

-- The names below the directory, one list of them for each path.
def names : Derived → List (List Bytes)
  | .settingsDir => [[text "orion"]]
  | .settingsFile => [[text "orion",text "config.toml"]]
  | .projectFiles => [[text ".orion.toml"],[text ".orion.yaml"],[text ".orion.yml"]]
  | .stateDir => [[text "orion"]]
  | .logFile => [[text "logs",text "orion.log"]]

theorem names_named (derived : Derived) :
    ∀ names ∈ derived.names, names ≠ [] ∧ ∀ name ∈ names, Path.Name name := by
  cases derived <;> decide

theorem names_some (derived : Derived) : ∃ names, names ∈ derived.names := by
  cases derived <;> exact ⟨_,List.mem_cons_self⟩

theorem paths_join (dir : Bytes) (derived : Derived) :
    derived.paths dir = derived.names.map fun names => Path.join (dir :: names) := by
  cases derived with
  | settingsFile =>
    have outer : ∀ name ∈ [text "orion"], Path.Name name := by decide
    have inner : ∀ name ∈ [text "config.toml"], Path.Name name := by decide
    have joined : Settings.globalPath dir = Path.join [dir,text "orion",text "config.toml"] :=
      Path.join_join dir (by simp) outer (by simp) inner
    exact congrArg (fun path => [path]) joined
  | _ => rfl

-- Whatever a directory is written like, the paths that are derived from it are clean, and consist of
-- the cleaned directory and of fixed names which nothing in the directory can take back. The
-- directory is all that they depend on, and it can be told from them.
theorem derived_paths_stay_below (dir : Bytes) (derived : Derived) :
    List.Forall₂ (Path.Below dir) derived.names (derived.paths dir) ∧
    ∀ other, derived.paths other = derived.paths dir ↔ Path.clean other = Path.clean dir := by
  rw [paths_join]
  constructor
  · rw [List.forall₂_map_right_iff,List.forall₂_same]
    intro names listed
    obtain ⟨some_,named⟩ := derived.names_named names listed
    exact Path.join_below dir some_ named
  · intro other
    rw [paths_join,List.map_inj_left]
    constructor
    · intro same
      obtain ⟨names,listed⟩ := derived.names_some
      obtain ⟨some_,named⟩ := derived.names_named names listed
      exact (Path.join_exact some_ named).mp (same names listed)
    · intro same names listed
      obtain ⟨some_,named⟩ := derived.names_named names listed
      exact (Path.join_exact some_ named).mpr same

-- Components of the directory that lead back are gone before a name is put behind it.
example : settingsFile.paths (text "a/..//.") = [text "orion/config.toml"] ∧
    logFile.paths (text "//x/../..") = [text "/logs/orion.log"] := by decide

end Derived

end ScriptLauncher
