import ScriptLauncher.Path
import ScriptLauncher.Proofs.Bytes

namespace ScriptLauncher.Path

-- A component that names an entry of a directory.
structure Name (part : Bytes) : Prop where
  some_ : part ≠ []
  notDot : part ≠ dot
  notDotDot : part ≠ dotDot
  free : Bytes.slash ∉ part

instance (part : Bytes) : Decidable (Name part) :=
  decidable_of_iff (part ≠ [] ∧ part ≠ dot ∧ part ≠ dotDot ∧ Bytes.slash ∉ part)
    ⟨fun ⟨some_,notDot,notDotDot,free⟩ => ⟨some_,notDot,notDotDot,free⟩,
      fun named => ⟨named.some_,named.notDot,named.notDotDot,named.free⟩⟩

-- What `push` keeps, innermost first: names on top of climbs, and no climb where there is a root.
inductive Stacked (rooted : Bool) : List Bytes → Prop where
  | climbs (count : Nat) (bounded : rooted = true → count = 0) :
      Stacked rooted (List.replicate count dotDot)
  | name (named : Name part) (below : Stacked rooted rest) : Stacked rooted (part :: rest)

theorem push_name {part : Bytes} (named : Name part) (rooted : Bool) (kept : List Bytes) :
    push rooted kept part = part :: kept := by
  simp [push,named.some_,named.notDot,named.notDotDot]

theorem push_climb {rooted : Bool} {kept : List Bytes} (stacked : Stacked rooted kept) :
    Stacked rooted (push rooted kept dotDot) := by
  have notEmpty : dotDot ≠ [] := by decide
  have notDot : dotDot ≠ dot := by decide
  cases stacked with
  | climbs count bounded =>
    cases count with
    | zero =>
      cases rooted with
      | true => exact .climbs 0 fun _ => rfl
      | false => exact .climbs 1 (by simp)
    | succ count =>
      have free : rooted = false := by
        cases rooted with
        | true => exact absurd (bounded rfl) (by simp)
        | false => rfl
      have higher : push rooted (List.replicate (count + 1) dotDot) dotDot =
          List.replicate (count + 2) dotDot := by
        simp [push,notEmpty,notDot,List.replicate_succ]
      rw [higher]
      exact .climbs _ (by simp [free])
  | @name part rest named below =>
    have back : push rooted (part :: rest) dotDot = rest := by
      simp [push,notEmpty,notDot,named.notDotDot]
    rw [back]
    exact below

theorem push_stacked {rooted : Bool} {kept : List Bytes} (stacked : Stacked rooted kept)
    {part : Bytes} (free : Bytes.slash ∉ part) : Stacked rooted (push rooted kept part) := by
  by_cases empty : part = []
  · simpa [push,empty] using stacked
  · by_cases here : part = dot
    · simpa [push,here] using stacked
    · by_cases up : part = dotDot
      · rw [up]
        exact push_climb stacked
      · have named : Name part := ⟨empty,here,up,free⟩
        rw [push_name named]
        exact .name named stacked

theorem pushes_stacked {rooted : Bool} {parts kept : List Bytes} (stacked : Stacked rooted kept)
    (free : ∀ part ∈ parts, Bytes.slash ∉ part) :
    Stacked rooted (parts.foldl (push rooted) kept) := by
  induction parts generalizing kept with
  | nil => exact stacked
  | cons part rest ih =>
    obtain ⟨first,others⟩ := List.forall_mem_cons.mp free
    exact ih (push_stacked stacked first) others

theorem pushes_names {names : List Bytes} (named : ∀ name ∈ names, Name name) (rooted : Bool)
    (kept : List Bytes) : names.foldl (push rooted) kept = names.reverse ++ kept := by
  induction names generalizing kept with
  | nil => rfl
  | cons name rest ih =>
    obtain ⟨first,others⟩ := List.forall_mem_cons.mp named
    rw [List.foldl_cons,push_name first,ih others]
    simp

-- The same from the outside: first up, then down along names.
structure Settled (rooted : Bool) (parts : List Bytes) (climbs : Nat) (names : List Bytes) :
    Prop where
  shape : parts = List.replicate climbs dotDot ++ names
  bounded : rooted = true → climbs = 0
  named : ∀ name ∈ names, Name name

theorem Stacked.settled {rooted : Bool} {kept : List Bytes} (stacked : Stacked rooted kept) :
    ∃ climbs names, Settled rooted kept.reverse climbs names := by
  induction stacked with
  | climbs count bounded => exact ⟨count,[],by simp,bounded,by simp⟩
  | @name part rest named below ih =>
    obtain ⟨climbs,names,shape,bounded,all⟩ := ih
    refine ⟨climbs,names ++ [part],by simp [shape],bounded,?_⟩
    exact List.forall_mem_append.mpr ⟨all,List.forall_mem_singleton.mpr named⟩

theorem reduce_settled (rooted : Bool) (path : Bytes) :
    ∃ climbs names, Settled rooted (reduce rooted (components path)) climbs names :=
  (pushes_stacked (.climbs 0 fun _ => rfl) (Bytes.splitOn_free Bytes.slash path)).settled

theorem Settled.append {rooted : Bool} {parts : List Bytes} {climbs : Nat} {names more : List Bytes}
    (settled : Settled rooted parts climbs names) (named : ∀ name ∈ more, Name name) :
    Settled rooted (parts ++ more) climbs (names ++ more) := by
  refine ⟨by simp [settled.shape],settled.bounded,?_⟩
  exact List.forall_mem_append.mpr ⟨settled.named,named⟩

theorem Settled.each {rooted : Bool} {parts : List Bytes} {climbs : Nat} {names : List Bytes}
    (settled : Settled rooted parts climbs names) :
    ∀ part ∈ parts, part ≠ [] ∧ Bytes.slash ∉ part := by
  have up : dotDot ≠ [] ∧ Bytes.slash ∉ dotDot := by decide
  intro part present
  rw [settled.shape] at present
  rcases List.mem_append.mp present with climb | name
  · rw [(List.mem_replicate.mp climb).2]
    exact up
  · exact ⟨(settled.named part name).some_,(settled.named part name).free⟩

theorem pushes_climbs (count extra : Nat) :
    (List.replicate count dotDot).foldl (push false) (List.replicate extra dotDot) =
      List.replicate (count + extra) dotDot := by
  have notEmpty : dotDot ≠ [] := by decide
  have notDot : dotDot ≠ dot := by decide
  induction count generalizing extra with
  | zero => simp
  | succ count ih =>
    have one : push false (List.replicate extra dotDot) dotDot =
        List.replicate (extra + 1) dotDot := by
      cases extra with
      | zero => simp [push,notEmpty,notDot]
      | succ extra => simp [push,notEmpty,notDot,List.replicate_succ]
    rw [List.replicate_succ,List.foldl_cons,one,ih]
    congr 1
    omega

-- Nothing is left to take away from settled components.
theorem Settled.reduce {rooted : Bool} {parts : List Bytes} {climbs : Nat} {names : List Bytes}
    (settled : Settled rooted parts climbs names) : reduce rooted parts = parts := by
  have climbed : (List.replicate climbs dotDot).foldl (push rooted) [] =
      List.replicate climbs dotDot := by
    cases rooted with
    | true =>
      rw [settled.bounded rfl]
      rfl
    | false => simpa using pushes_climbs climbs 0
  rw [Path.reduce,settled.shape,List.foldl_append,climbed,pushes_names settled.named]
  simp

theorem reduce_append_names {names : List Bytes} (named : ∀ name ∈ names, Name name)
    (rooted : Bool) (parts : List Bytes) :
    reduce rooted (parts ++ names) = reduce rooted parts ++ names := by
  simp [reduce,List.foldl_append,pushes_names named]

theorem isAbsolute_append {dir : Bytes} (some_ : dir ≠ []) (rest : Bytes) :
    isAbsolute (dir ++ rest) = isAbsolute dir := by
  cases dir with
  | nil => exact (some_ rfl).elim
  | cons b dir => rfl

theorem isAbsolute_join {parts : List Bytes} (some_ : parts ≠ [])
    (each : ∀ part ∈ parts, part ≠ [] ∧ Bytes.slash ∉ part) :
    isAbsolute (Bytes.join [Bytes.slash] parts) = false := by
  have first (part rest : Bytes) (solid : part ≠ []) (free : Bytes.slash ∉ part) :
      isAbsolute (part ++ rest) = false := by
    cases part with
    | nil => exact (solid rfl).elim
    | cons b part =>
      have other : b ≠ Bytes.slash := fun equal => free (by simp [equal])
      simp [isAbsolute,other]
  cases parts with
  | nil => exact (some_ rfl).elim
  | cons part rest =>
    obtain ⟨solid,free⟩ := each part (by simp)
    cases rest with
    | nil => simpa [Bytes.join] using first part [] solid free
    | cons next rest => simpa [Bytes.join] using first part _ solid free

-- Fixed names behind a directory come out as they are, behind what remains of the directory.
theorem join_names (dir : Bytes) {names : List Bytes} (some_ : names ≠ [])
    (named : ∀ name ∈ names, Name name) : join (dir :: names) =
      render (isAbsolute dir) (reduce (isAbsolute dir) (components dir) ++ names) := by
  have kept : names.filter (fun part => !part.isEmpty) = names := by
    rw [List.filter_eq_self]
    intro name present
    simp [(named name present).some_]
  have split_ : components (Bytes.join [Bytes.slash] names) = names :=
    Bytes.splitOn_join some_ fun name present => (named name present).free
  cases dir with
  | nil =>
    have nothing : reduce false (components []) = [] := by decide
    have alone := reduce_append_names named false []
    have empty : reduce false [] = [] := by decide
    have relative := isAbsolute_join some_ fun name present =>
      ⟨(named name present).some_,(named name present).free⟩
    have whole : join ([] :: names) = clean (Bytes.join [Bytes.slash] names) := by
      cases names with
      | nil => exact (some_ rfl).elim
      | cons name rest => simp [join,kept]
    rw [whole,clean,relative,split_]
    simp only [List.nil_append,empty] at alone
    simp [isAbsolute,nothing,alone]
  | cons b dir =>
    have whole : join ((b :: dir) :: names) =
        clean (b :: dir ++ Bytes.slash :: Bytes.join [Bytes.slash] names) := by
      cases names with
      | nil => exact (some_ rfl).elim
      | cons name rest => simp [join,kept,Bytes.join]
    have parts : components (b :: dir ++ Bytes.slash :: Bytes.join [Bytes.slash] names) =
        components (b :: dir) ++ names := by
      rw [components,Bytes.splitOn_append]
      exact congrArg _ split_
    rw [whole,clean,parts,reduce_append_names named]
    rfl

theorem components_render (rooted : Bool) {parts : List Bytes} (some_ : parts ≠ [])
    (free : ∀ part ∈ parts, Bytes.slash ∉ part) :
    components (render rooted parts) = (if rooted then [[]] else []) ++ parts := by
  have back := Bytes.splitOn_join some_ free
  cases rooted with
  | true => simp [render,components,Bytes.splitOn,back]
  | false => simp [render,some_,components,back]

theorem Settled.absolute {rooted : Bool} {parts : List Bytes} {climbs : Nat} {names : List Bytes}
    (settled : Settled rooted parts climbs names) (some_ : parts ≠ []) :
    isAbsolute (render rooted parts) = rooted := by
  cases rooted with
  | true => rfl
  | false => simpa [render,some_] using isAbsolute_join some_ settled.each

theorem render_ne_nil (rooted : Bool) {parts : List Bytes} (some_ : parts ≠ [])
    (solid : ∀ part ∈ parts, part ≠ []) : render rooted parts ≠ [] := by
  cases parts with
  | nil => exact (some_ rfl).elim
  | cons part rest =>
    have first := solid part (by simp)
    cases rooted with
    | true => simp [render]
    | false => cases rest <;> simp [render,Bytes.join,first]

theorem reduce_front (rooted : Bool) (parts : List Bytes) :
    reduce rooted ((if rooted then [[]] else []) ++ parts) = reduce rooted parts := by
  cases rooted <;> simp [reduce,push]

theorem reduce_edges (rooted : Bool) (parts : List Bytes) :
    reduce rooted ((if rooted then [[]] else []) ++ parts ++ [[]]) = reduce rooted parts := by
  rw [List.append_assoc,reduce_front]
  simp [reduce,push,List.foldl_append]

theorem Settled.components {rooted : Bool} {parts : List Bytes} {climbs : Nat} {names : List Bytes}
    (settled : Settled rooted parts climbs names) (some_ : parts ≠ []) :
    components (render rooted parts) = (if rooted then [[]] else []) ++ parts :=
  components_render rooted some_ fun part present => (settled.each part present).2

-- What a path was put together from is what it is taken apart into.
theorem Settled.reads {rooted : Bool} {parts : List Bytes} {climbs : Nat} {names : List Bytes}
    (settled : Settled rooted parts climbs names) :
    isAbsolute (render rooted parts) = rooted ∧
      Path.reduce rooted (Path.components (render rooted parts)) = parts := by
  by_cases empty : parts = []
  · rw [empty]
    cases rooted <;> decide
  · refine ⟨settled.absolute empty,?_⟩
    rw [settled.components empty,reduce_front,settled.reduce]

-- Going to the directory of a settled path takes its last name away.
theorem Settled.parent {rooted : Bool} {parts : List Bytes} {climbs : Nat} {names : List Bytes}
    (settled : Settled rooted parts climbs names) (some_ : parts ≠ []) {last : Bytes}
    (named : Name last) : parent (render rooted (parts ++ [last])) = render rooted parts := by
  have glued : render rooted (parts ++ [last]) = render rooted parts ++ Bytes.slash :: last := by
    cases rooted with
    | true => simp [render,Bytes.join_snoc _ some_]
    | false => simp [render,some_,Bytes.join_snoc _ some_]
  have skip : ∀ b ∈ last.reverse, (b != Bytes.slash) = true := by
    intro b present
    have inside : b ∈ last := by simpa using present
    simpa using fun equal : b = Bytes.slash => named.free (equal ▸ inside)
  have cut : ((render rooted parts ++ Bytes.slash :: last).reverse.dropWhile
      (· != Bytes.slash)).reverse = render rooted parts ++ [Bytes.slash] := by
    rw [List.reverse_append,List.reverse_cons,List.append_assoc,List.dropWhile_append_of_pos skip]
    simp
  have solid := render_ne_nil rooted some_ fun part present => (settled.each part present).1
  have rest : Path.components (render rooted parts ++ [Bytes.slash]) =
      (if rooted then [[]] else []) ++ parts ++ [[]] := by
    rw [Path.components,Bytes.splitOn_append]
    exact congrArg (· ++ [[]]) (settled.components some_)
  rw [glued,Path.parent,cut,clean,isAbsolute_append solid,settled.absolute some_,rest,reduce_edges,
    settled.reduce]

end ScriptLauncher.Path
