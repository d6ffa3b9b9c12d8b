import ScriptLauncher.Proofs.Locations

namespace ScriptLauncher

theorem Path.join_pair {dir rest : Bytes} (begun : dir ≠ []) (some_ : rest ≠ []) :
    join [dir,rest] = clean (dir ++ Bytes.slash :: rest) := by
  simp [join,begun,some_,Bytes.join]

namespace FileSystem

-- A place with names that the system takes.
structure Spelled (place : Location) : Prop where
  named : ∀ name ∈ place, Path.Name name
  fits : ∀ name ∈ place, name.length ≤ maxName

theorem Spelled.root : Spelled [] := ⟨by simp,by simp⟩

theorem Spelled.above {place above : Location} (spelled : Spelled place) (way : above <+: place) :
    Spelled above :=
  ⟨fun name present => spelled.named name (way.subset present),
    fun name present => spelled.fits name (way.subset present)⟩

theorem Spelled.add {dir : Location} {name : Bytes} (spelled : Spelled dir)
    (named : Path.Name name) (fit : name.length ≤ maxName) : Spelled (dir ++ [name]) :=
  ⟨List.forall_mem_append.mpr ⟨spelled.named,List.forall_mem_singleton.mpr named⟩,
    List.forall_mem_append.mpr ⟨spelled.fits,List.forall_mem_singleton.mpr fit⟩⟩

theorem push_up {dir : Location} (named : ∀ name ∈ dir, Path.Name name) :
    Path.push true dir.reverse Path.dotDot = dir.dropLast.reverse := by
  have notEmpty : Path.dotDot ≠ [] := by decide
  have notDot : Path.dotDot ≠ Path.dot := by decide
  rcases List.eq_nil_or_concat dir with rfl | ⟨higher,name,rfl⟩
  · rfl
  · have last := (named name (by simp)).notDotDot
    simp [Path.push,notEmpty,notDot,last]

-- There are no links, so components that lead to a directory lead where the lexical rules say.
theorem walk_lexical {fs : FileSystem} {dir place : Location} {parts : List Bytes}
    (spelled : Spelled dir) (free : ∀ part ∈ parts, Bytes.slash ∉ part)
    (reached : fs.walk dir parts = .ok (place,some .directory)) :
    Spelled place ∧ parts.foldl (Path.push true) dir.reverse = place.reverse := by
  induction parts generalizing dir with
  | nil =>
    have here : dir = place := by
      rw [FileSystem.walk,Except.ok.injEq,Prod.mk.injEq] at reached
      exact reached.1
    exact ⟨here ▸ spelled,congrArg List.reverse here⟩
  | cons part rest ih =>
    obtain ⟨first,others⟩ := List.forall_mem_cons.mp free
    rw [FileSystem.walk] at reached
    rw [List.foldl_cons]
    split at reached
    · rename_i skipped
      have kept : Path.push true dir.reverse part = dir.reverse := by simp [Path.push,skipped]
      rw [kept]
      exact ih spelled others reached
    · rename_i solid
      split at reached
      · rename_i up
        rw [beq_iff_eq.mp up,push_up spelled.named]
        have higher := List.dropLast_prefix dir
        exact ih (spelled.above higher) others reached
      · rename_i down
        split at reached
        · cases reached
        · rename_i short
          split at reached
          · have named : Path.Name part := by
              simp only [Bool.or_eq_true,List.isEmpty_iff,beq_iff_eq,not_or] at solid down
              exact ⟨solid.1,solid.2,down,first⟩
            have pushed : Path.push true dir.reverse part = (dir ++ [part]).reverse := by
              simp [Path.push_name named]
            rw [pushed]
            exact ih (spelled.add named (by omega)) others reached
          · split at reached <;> cases reached
          · split at reached <;> cases reached

theorem resolve_some {fs : FileSystem} {cwd : Option Location} {path : Bytes}
    {result : Location × Option Node} (found : fs.resolve cwd path = .ok result) : path ≠ [] := by
  rintro rfl
  cases found

theorem resolve_from {fs : FileSystem} {cwd : Option Location} {path : Bytes}
    (relative : Path.isAbsolute path = false) {result : Location × Option Node}
    (found : fs.resolve cwd path = .ok result) : ∃ here, cwd = some here := by
  cases cwd with
  | some here => exact ⟨here,rfl⟩
  | none =>
    simp only [resolve,relative,Bool.false_eq_true,if_false] at found
    split at found
    · cases found
    · split at found
      · cases found
      · split at found <;> cases found

theorem resolve_lexical {fs : FileSystem} {cwd : Option Location} {path : Bytes} {place : Location}
    (spelled : Spelled (origin cwd path))
    (found : fs.resolve cwd path = .ok (place,some .directory)) : Spelled place ∧
      (Path.components path).foldl (Path.push true) (origin cwd path).reverse = place.reverse :=
  walk_lexical spelled (Bytes.splitOn_free Bytes.slash path) (resolve_walk found)

end FileSystem

namespace Host

theorem location_reduce {place : Location} (named : ∀ name ∈ place, Path.Name name) :
    Path.reduce true (Path.components (locationPath place)) = place := by
  have settled : Path.Settled true place 0 place := ⟨by simp,fun _ => rfl,named⟩
  exact settled.reads.2

theorem join_location {dir : Location} {name : Bytes} (named : ∀ part ∈ dir, Path.Name part)
    (final : Path.Name name) :
    Path.join [locationPath dir,name] = locationPath (dir ++ [name]) := by
  have whole := Path.join_names (locationPath dir) (List.cons_ne_nil name [])
    (List.forall_mem_singleton.mpr final)
  have absolute : Path.isAbsolute (locationPath dir) = true := rfl
  rw [absolute,location_reduce named] at whole
  exact whole

-- A host whose working directory can be written down.
structure Grounded (host : Host) : Prop extends host.Sound where
  spelled : ∀ here, host.cwd = some here → FileSystem.Spelled here

theorem Grounded.origin {host : Host} (grounded : host.Grounded) (path : Bytes) :
    FileSystem.Spelled (FileSystem.origin host.cwd path) := by
  unfold FileSystem.origin
  split
  · exact .root
  · cases cwd : host.cwd with
    | none => exact .root
    | some here => exact grounded.spelled here cwd

theorem Grounded.remove {host : Host} (grounded : host.Grounded) (path : Bytes) :
    (host.remove path).Grounded :=
  ⟨grounded.toSound.remove path,fun here left_ =>
    grounded.spelled here (Option.filter_eq_some_iff.mp left_).1⟩

theorem workingDirectory_absolute {host : Host} {workDir : Bytes}
    (here : host.workingDirectory = .ok workDir) : Path.isAbsolute workDir = true := by
  unfold Host.workingDirectory at here
  split at here
  · cases here
  · dsimp only at here
    split at here
    · rename_i spelled _
      split at here
      · cases here
        exact spelled
      · cases here
        rfl
    · cases here
      rfl

-- However the working directory is spelled, its path leads to it by lexical rules.
theorem workingDirectory_lexical {host : Host} {here : Location} (cwd : host.cwd = some here)
    (spelled : FileSystem.Spelled here) : ∃ dir, host.workingDirectory = .ok dir ∧
      Path.isAbsolute dir = true ∧ Path.reduce true (Path.components dir) = here := by
  have plain : Path.isAbsolute (locationPath here) = true ∧
      Path.reduce true (Path.components (locationPath here)) = here :=
    ⟨rfl,location_reduce spelled.named⟩
  rw [workingDirectory,cwd]
  dsimp only
  split
  · rename_i other absolute resolved
    split
    · rename_i same
      refine ⟨_,rfl,absolute,?_⟩
      have root : FileSystem.origin none (host.vars.value (text "PWD")) = [] := by
        rw [FileSystem.origin,if_pos absolute]
      have lexical := (FileSystem.resolve_lexical (root ▸ .root) resolved).2
      rw [root,List.reverse_nil] at lexical
      rw [Path.reduce,lexical,List.reverse_reverse,beq_iff_eq.mp same]
    · exact ⟨_,rfl,plain⟩
  · exact ⟨_,rfl,plain⟩

-- The absolute path of a directory that is there is the path of its place, whatever components the
-- directory was named with.
theorem Grounded.absolute {host : Host} (grounded : host.Grounded) {dir : Bytes} {place : Location}
    (leads : host.files.resolve host.cwd dir = .ok (place,some .directory)) :
    FileSystem.Spelled place ∧ host.absolute dir = .ok (locationPath place) := by
  obtain ⟨spelled,lexical⟩ := FileSystem.resolve_lexical (grounded.origin dir) leads
  refine ⟨spelled,?_⟩
  cases rooted : Path.isAbsolute dir with
  | true =>
    rw [FileSystem.origin,rooted,if_pos rfl,List.reverse_nil] at lexical
    rw [Host.absolute,rooted,if_pos rfl,Path.clean,rooted,Path.reduce,lexical,List.reverse_reverse]
    rfl
  | false =>
    obtain ⟨here,cwd⟩ := FileSystem.resolve_from rooted leads
    obtain ⟨start,working,absolute,reduced⟩ :=
      workingDirectory_lexical cwd (grounded.spelled here cwd)
    have some_ := FileSystem.resolve_some leads
    have begun : start ≠ [] := by
      rintro rfl
      cases absolute
    have from_ : (Path.components start).foldl (Path.push true) [] = here.reverse := by
      rw [← reduced,Path.reduce,List.reverse_reverse]
    have parts : Path.components (start ++ Bytes.slash :: dir) =
        Path.components start ++ Path.components dir := Bytes.splitOn_append ..
    rw [FileSystem.origin,rooted,if_neg Bool.false_ne_true,cwd,Option.getD_some] at lexical
    rw [Host.absolute,rooted,if_neg Bool.false_ne_true,working,Except.map,
      Path.join_pair begun some_,Path.clean,Path.isAbsolute_append begun,absolute,Path.reduce,parts,
      List.foldl_append,from_,lexical,List.reverse_reverse]
    rfl

-- An absolute path is always that of some place, be anything there or not.
theorem absolute_location {host : Host} {start path : Bytes}
    (absolute : host.absolute start = .ok path) :
    ∃ place, (∀ name ∈ place, Path.Name name) ∧ path = locationPath place := by
  have cleaned (whole : Bytes) (rooted : Path.isAbsolute whole = true) :
      ∃ place, (∀ name ∈ place, Path.Name name) ∧ Path.clean whole = locationPath place := by
    obtain ⟨climbs,names,settled⟩ := Path.reduce_settled true whole
    have shape := settled.shape
    rw [settled.bounded rfl,List.replicate_zero,List.nil_append] at shape
    exact ⟨names,settled.named,by rw [Path.clean,rooted,shape,locationPath]⟩
  unfold Host.absolute at absolute
  split at absolute
  · rename_i rooted
    cases absolute
    exact cleaned start rooted
  · cases working : host.workingDirectory with
    | error fault =>
      rw [working] at absolute
      cases absolute
    | ok dir =>
      rw [working] at absolute
      cases absolute
      have rooted := workingDirectory_absolute working
      have begun : dir ≠ [] := by
        rintro rfl
        cases rooted
      dsimp only
      by_cases empty : start = []
      · have alone : Path.join [dir,start] = Path.clean dir := by
          simp [Path.join,begun,empty,Bytes.join]
        rw [alone]
        exact cleaned dir rooted
      · rw [Path.join_pair begun empty]
        exact cleaned _ ((Path.isAbsolute_append begun _).trans rooted)

end Host

end ScriptLauncher
