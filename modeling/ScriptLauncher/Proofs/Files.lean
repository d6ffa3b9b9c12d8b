import ScriptLauncher.Log
import ScriptLauncher.Proofs.Paths

namespace ScriptLauncher

def Node.isDirectory : Node → Bool
  | .directory => true
  | .file _ => false

namespace FileSystem

theorem get?_set (fs : FileSystem) {place : Location} (inner : place ≠ []) (node : Node)
    (other : Location) :
    (fs.set place node).get? other = if other = place then some node else fs.get? other := by
  by_cases same : other = place
  · subst same
    simp [get?,set,inner]
  · have different : (place == other) = false := by simpa using Ne.symm same
    have passed : (fs.entries.filter (·.1 != place)).find? (·.1 == other) =
        fs.entries.find? (·.1 == other) := by
      rw [List.find?_filter]
      congr 1
      funext entry
      by_cases hit : entry.1 = other
      · simp [hit,same]
      · simp [hit]
    cases other with
    | nil => simp [get?,Ne.symm inner]
    | cons name rest => simp [get?,set,different,passed,same]

-- What becomes of a node when the file with an identity gets another content.
def touched (id : Nat) (change : Bytes → Bytes) : Node → Node
  | .directory => .directory
  | .file f => .file (if f.id == id then { f with data := change f.data } else f)

theorem get?_modify (fs : FileSystem) (id : Nat) (change : Bytes → Bytes) (place : Location) :
    (fs.modify id change).get? place = (fs.get? place).map (touched id change) := by
  cases place with
  | nil => rfl
  | cons name rest =>
    simp only [get?,modify,List.isEmpty_cons,Bool.false_eq_true,if_false]
    induction fs.entries with
    | nil => rfl
    | cons entry entries ih =>
      obtain ⟨there,node⟩ := entry
      by_cases hit : there = name :: rest
      · cases node <;> simp [hit,touched]
      · cases node <;> simpa [List.find?_cons,hit] using ih

-- Growth towards a place. What was there keeps its kind; what is new stands on the way to the place
-- and is a directory, but at the place itself it may be a file.
def Grows (target : Location) (before after : FileSystem) : Prop :=
  ∀ place, (after.get? place).map Node.isDirectory = (before.get? place).map Node.isDirectory ∨
    before.get? place = none ∧ place <+: target ∧
      (after.get? place = some .directory ∨ place = target)

theorem Grows.refl (target : Location) (fs : FileSystem) : Grows target fs fs := fun _ => .inl rfl

theorem directory_of_kind {node : Option Node} (kind : node.map Node.isDirectory = some true) :
    node = some .directory := by
  cases node with
  | none => cases kind
  | some node =>
    cases node with
    | directory => rfl
    | file f => cases kind

theorem Grows.trans {target : Location} {one two three : FileSystem} (first : Grows target one two)
    (second : Grows target two three) : Grows target one three := by
  intro place
  rcases first place with same | ⟨none_,way,new⟩
  · rcases second place with again | ⟨none_,way,new⟩
    · exact .inl (again.trans same)
    · rw [none_] at same
      have before : one.get? place = none := by simpa using same.symm
      exact .inr ⟨before,way,new⟩
  · refine .inr ⟨none_,way,?_⟩
    rcases new with directory | here
    · rcases second place with again | ⟨lost,-,-⟩
      · rw [directory] at again
        exact .inl (directory_of_kind again)
      · rw [directory] at lost
        cases lost
    · exact .inr here

theorem set_grows {fs : FileSystem} {place target : Location} {node : Node}
    (free : fs.get? place = none) (way : place <+: target)
    (new : node = .directory ∨ place = target) : Grows target fs (fs.set place node) := by
  have inner : place ≠ [] := by
    rintro rfl
    cases free
  intro other
  rw [get?_set fs inner]
  by_cases same : other = place
  · subst same
    refine .inr ⟨free,way,?_⟩
    rcases new with rfl | here
    · simp
    · exact .inr here
  · simp [same]

theorem modify_grows (target : Location) (fs : FileSystem) (id : Nat) (change : Bytes → Bytes) :
    Grows target fs (fs.modify id change) := by
  intro place
  rw [get?_modify]
  cases fs.get? place with
  | none => exact .inl rfl
  | some node => cases node <;> exact .inl rfl

-- Where components lead from a directory if nothing on the way has to exist.
def follow (dir : Location) : List Bytes → Location
  | [] => dir
  | part :: rest =>
    if part.isEmpty || part == Path.dot then follow dir rest
    else if part == Path.dotDot then follow dir.dropLast rest
    else follow (dir ++ [part]) rest

def origin (cwd : Option Location) (path : Bytes) : Location :=
  if Path.isAbsolute path then [] else cwd.getD []

def place (cwd : Option Location) (path : Bytes) : Location :=
  follow (origin cwd path) (Path.components path)

def climb : Nat → Location → Location
  | 0,dir => dir
  | count + 1,dir => climb count dir.dropLast

-- A path that comes down to following names from a directory, for all that is done with paths.
structure Descends (cwd : Option Location) (path : Bytes) (base : Location) (names : List Bytes) :
    Prop where
  walk : ∀ fs, walk fs (origin cwd path) (Path.components path) = walk fs base names
  make : ∀ fs, makeAll fs (origin cwd path) (Path.components path) = makeAll fs base names
  stops : ∀ parts, parts <+: Path.components path → ∃ front, front <+: names ∧
    ∀ fs, left (makeAll fs (origin cwd path) parts) = left (makeAll fs base front)
  place : place cwd path = base ++ names
  named : ∀ name ∈ names, Path.Name name
  inside : ∀ name ∈ names, name ∈ Path.components path

theorem climbs_down (count : Nat) (dir : Location) (rest : List Bytes) (fs : FileSystem) :
    walk fs dir (List.replicate count Path.dotDot ++ rest) = walk fs (climb count dir) rest ∧
    makeAll fs dir (List.replicate count Path.dotDot ++ rest) =
      makeAll fs (climb count dir) rest ∧
    follow dir (List.replicate count Path.dotDot ++ rest) = follow (climb count dir) rest := by
  have solid : Path.dotDot ≠ [] := by decide
  have other : Path.dotDot ≠ Path.dot := by decide
  induction count generalizing dir with
  | zero => exact ⟨rfl,rfl,rfl⟩
  | succ count ih =>
    obtain ⟨walked,made,followed⟩ := ih dir.dropLast
    refine ⟨?_,?_,?_⟩
    · simpa [List.replicate_succ,FileSystem.walk,solid,other,climb] using walked
    · simpa [List.replicate_succ,FileSystem.makeAll,solid,other,climb] using made
    · simpa [List.replicate_succ,follow,solid,other,climb] using followed

-- Going up makes nothing, so what is made along the front of such components is made along names.
theorem climbs_stop {count : Nat} {names parts : List Bytes}
    (along : parts <+: List.replicate count Path.dotDot ++ names) (dir : Location) :
    ∃ front, front <+: names ∧
      ∀ fs, left (makeAll fs dir parts) = left (makeAll fs (climb count dir) front) := by
  rcases List.prefix_or_prefix_of_prefix along (List.prefix_append _ _) with up | ⟨front,rfl⟩
  · refine ⟨[],List.nil_prefix,fun fs => ?_⟩
    obtain ⟨-,same⟩ := List.prefix_replicate_iff.mp up
    have done := (climbs_down parts.length dir [] fs).2.1
    rw [List.append_nil,← same] at done
    rw [done]
    rfl
  · refine ⟨front,(List.prefix_append_right_inj _).mp along,fun fs => ?_⟩
    rw [(climbs_down count dir front fs).2.1]

theorem follow_names {names : List Bytes} (named : ∀ name ∈ names, Path.Name name)
    (dir : Location) : follow dir names = dir ++ names := by
  induction names generalizing dir with
  | nil => simp [follow]
  | cons name rest ih =>
    obtain ⟨first,others⟩ := List.forall_mem_cons.mp named
    simp [follow,first.some_,first.notDot,first.notDotDot,ih others]

theorem settled_descends {rooted : Bool} {parts : List Bytes} {climbs : Nat} {names : List Bytes}
    (settled : Path.Settled rooted parts climbs names) (some_ : parts ≠ [])
    (cwd : Option Location) : Descends cwd (Path.render rooted parts)
      (climb climbs (if rooted then [] else cwd.getD [])) names := by
  have absolute := settled.absolute some_
  have split_ := Path.components_render rooted some_ fun part present =>
    (settled.each part present).2
  have down := climbs_down climbs (if rooted then [] else cwd.getD []) names
  refine ⟨fun fs => ?_,fun fs => ?_,fun front way => ?_,?_,settled.named,fun name present => ?_⟩
  · rw [origin,absolute,split_,← (down fs).1,settled.shape]
    cases rooted <;> simp [FileSystem.walk]
  · rw [origin,absolute,split_,← (down fs).2.1,settled.shape]
    cases rooted <;> simp [FileSystem.makeAll]
  · rw [split_,settled.shape] at way
    rw [origin,absolute]
    cases rooted with
    | false => exact climbs_stop way _
    | true =>
      cases front with
      | nil => exact ⟨[],List.nil_prefix,fun fs => rfl⟩
      | cons part rest =>
        obtain ⟨rfl,below⟩ := List.cons_prefix_cons.mp way
        obtain ⟨named,inside,same⟩ := climbs_stop below []
        exact ⟨named,inside,fun fs => by simpa [FileSystem.makeAll] using same fs⟩
  · rw [FileSystem.place,origin,absolute,split_,← follow_names settled.named,
      ← (down .empty).2.2,settled.shape]
    cases rooted <;> simp [follow]
  · rw [split_,settled.shape]
    simp [present]

-- Fixed names behind any directory, and the directory that they stand in.
theorem join_descends (cwd : Option Location) (dir : Bytes) {front : List Bytes} {last : Bytes}
    (named : ∀ name ∈ front, Path.Name name) (final : Path.Name last) :
    ∃ base inner, Descends cwd (Path.join (dir :: (front ++ [last]))) base
        (inner ++ front ++ [last]) ∧
      (front ≠ [] → Descends cwd (Path.parent (Path.join (dir :: (front ++ [last])))) base
        (inner ++ front)) := by
  obtain ⟨climbs,inner,settled⟩ := Path.reduce_settled (Path.isAbsolute dir) dir
  have alone : ∀ name ∈ [last], Path.Name name := List.forall_mem_singleton.mpr final
  have all := List.forall_mem_append.mpr ⟨named,alone⟩
  have fronted := settled.append named
  have whole := fronted.append alone
  rw [Path.join_names dir (by simp) all,← List.append_assoc]
  refine ⟨_,inner,settled_descends whole (by simp) cwd,fun some_ => ?_⟩
  rw [fronted.parent (by simp [some_]) final]
  exact settled_descends fronted (by simp [some_]) cwd

theorem walk_name {name : Bytes} (named : Path.Name name) (fs : FileSystem) (dir : Location)
    (rest : List Bytes) : fs.walk dir (name :: rest) =
      if maxName < name.length then .error .nameTooLong
      else match fs.get? (dir ++ [name]) with
        | some .directory => fs.walk (dir ++ [name]) rest
        | some (.file f) =>
          if rest.isEmpty then .ok (dir ++ [name],some (.file f)) else .error .notDirectory
        | none => if rest.all List.isEmpty then .ok (dir ++ [name],none) else .error .noEntry := by
  have skipped : (name.isEmpty || name == Path.dot) = false := by
    simp [named.some_,named.notDot]
  have down : (name == Path.dotDot) = false := by simp [named.notDotDot]
  rw [FileSystem.walk,skipped,down]
  rfl

theorem makeAll_name {name : Bytes} (named : Path.Name name) (fs : FileSystem) (dir : Location)
    (rest : List Bytes) : fs.makeAll dir (name :: rest) =
      if maxName < name.length then .error (.nameTooLong,fs)
      else match fs.get? (dir ++ [name]) with
        | some .directory => fs.makeAll (dir ++ [name]) rest
        | some (.file _) => .error (.notDirectory,fs)
        | none => (fs.set (dir ++ [name]) .directory).makeAll (dir ++ [name]) rest := by
  have skipped : (name.isEmpty || name == Path.dot) = false := by
    simp [named.some_,named.notDot]
  have down : (name == Path.dotDot) = false := by simp [named.notDotDot]
  rw [FileSystem.makeAll,skipped,down]
  rfl

theorem names_ended {rest : List Bytes} (named : ∀ name ∈ rest, Path.Name name)
    (ended : rest.all List.isEmpty = true) : rest = [] := by
  cases rest with
  | nil => rfl
  | cons name rest =>
    have solid := (named name (by simp)).some_
    simp [solid] at ended

theorem walk_found {fs : FileSystem} {names : List Bytes}
    (named : ∀ name ∈ names, Path.Name name) {base place : Location} {node : Option Node}
    (found : fs.walk base names = .ok (place,node)) :
    place = base ++ names ∧ node = fs.get? place := by
  induction names generalizing base with
  | nil =>
    cases found
    simp
  | cons name rest ih =>
    obtain ⟨first,others⟩ := List.forall_mem_cons.mp named
    rw [walk_name first] at found
    split at found
    · cases found
    · split at found
      · have further := ih others found
        simpa using further
      · rename_i file
        split at found
        · rename_i ended
          have ended : rest = [] := by simpa using ended
          cases found
          simp [ended,file]
        · cases found
      · rename_i free
        split at found
        · rename_i ended
          cases found
          simp [names_ended others ended,free]
        · cases found

-- Directories made on the way to a place, and nothing else.
def Paves (target : Location) (before after : FileSystem) : Prop :=
  ∀ place, after.get? place = before.get? place ∨
    before.get? place = none ∧ place <+: target ∧ after.get? place = some .directory

theorem Paves.grows {dir target : Location} {before after : FileSystem}
    (paves : Paves dir before after) (way : dir <+: target) : Grows target before after := by
  intro place
  rcases paves place with same | ⟨none_,along,directory⟩
  · rw [same]
    exact .inl rfl
  · exact .inr ⟨none_,along.trans way,.inl directory⟩

theorem Paves.trans {target : Location} {one two three : FileSystem} (first : Paves target one two)
    (second : Paves target two three) : Paves target one three := by
  intro place
  rcases second place with same | ⟨none_,way,directory⟩
  · rw [same]
    exact first place
  · rcases first place with same | ⟨-,-,there⟩
    · exact .inr ⟨same ▸ none_,way,directory⟩
    · rw [there] at none_
      cases none_

theorem set_paves {fs : FileSystem} {place target : Location} (free : fs.get? place = none)
    (way : place <+: target) : Paves target fs (fs.set place .directory) := by
  have inner : place ≠ [] := by
    rintro rfl
    cases free
  intro other
  rw [get?_set fs inner]
  split
  · rename_i same
    subst same
    exact .inr ⟨free,way,rfl⟩
  · exact .inl rfl

theorem Paves.refl (target : Location) (fs : FileSystem) : Paves target fs fs := fun _ => .inl rfl

theorem Paves.further {dir target : Location} {before after : FileSystem}
    (paves : Paves dir before after) (way : dir <+: target) : Paves target before after := by
  intro place
  rcases paves place with same | ⟨none_,along,directory⟩
  · exact .inl same
  · exact .inr ⟨none_,along.trans way,directory⟩

-- Whether or not all directories can be made, only directories on the way are.
theorem makeAll_paves (fs : FileSystem) {names : List Bytes}
    (named : ∀ name ∈ names, Path.Name name) (base : Location) :
    Paves (base ++ names) fs (left (fs.makeAll base names)) ∧
      (left (fs.makeAll base names)).fresh = fs.fresh := by
  induction names generalizing fs base with
  | nil => exact ⟨.refl _ fs,rfl⟩
  | cons name rest ih =>
    obtain ⟨first,others⟩ := List.forall_mem_cons.mp named
    have whole : base ++ [name] ++ rest = base ++ name :: rest := by simp
    rw [makeAll_name first]
    split
    · exact ⟨.refl _ fs,rfl⟩
    · split
      · exact whole ▸ ih fs others (base ++ [name])
      · exact ⟨.refl _ fs,rfl⟩
      · rename_i free
        obtain ⟨further,fresh⟩ := ih (fs.set (base ++ [name]) .directory) others (base ++ [name])
        exact ⟨(set_paves free (by simp)).trans (whole ▸ further),fresh⟩

theorem left_refuse (how : Refusal) (done : Except (Refusal × FileSystem) FileSystem) :
    left (refuse how done) = left done := by
  cases done <;> rfl

theorem refuse_fails {how : Refusal} {done : Except (Refusal × FileSystem) FileSystem}
    {made : FileSystem} : refuse how done ≠ .ok made := by
  cases done <;> nofun

-- Making directories goes along the components of a path, all of them or some from the front.
theorem makeFrom_left (fs : FileSystem) (dir : Location) (path : Bytes) :
    ∃ parts, parts <+: Path.components path ∧
      left (fs.makeFrom dir path) = left (fs.makeAll dir parts) := by
  have front : leading path <+: Path.components path := List.take_prefix ..
  unfold makeFrom
  split
  · exact ⟨_,front,left_refuse ..⟩
  · split
    · exact ⟨_,front,left_refuse ..⟩
    · exact ⟨_,List.prefix_refl _,rfl⟩

theorem makeDirectories_left (fs : FileSystem) (cwd : Option Location) (path : Bytes) :
    ∃ parts, parts <+: Path.components path ∧
      left (fs.makeDirectories cwd path) = left (fs.makeAll (origin cwd path) parts) := by
  unfold makeDirectories origin
  split
  · exact makeFrom_left fs [] path
  · cases cwd with
    | none => exact ⟨[],List.nil_prefix,rfl⟩
    | some dir => exact makeFrom_left fs dir path

theorem makeFrom_makeAll {fs made : FileSystem} {dir : Location} {path : Bytes}
    (done : fs.makeFrom dir path = .ok made) : fs.makeAll dir (Path.components path) = .ok made := by
  unfold makeFrom at done
  split at done
  · exact (refuse_fails done).elim
  · split at done
    · exact (refuse_fails done).elim
    · exact done

theorem makeDirectories_makeAll {fs made : FileSystem} {cwd : Option Location} {path : Bytes}
    (done : fs.makeDirectories cwd path = .ok made) :
    fs.makeAll (origin cwd path) (Path.components path) = .ok made := by
  unfold makeDirectories at done
  unfold origin
  split at done
  · rename_i absolute
    rw [if_pos absolute]
    exact makeFrom_makeAll done
  · rename_i relative
    rw [if_neg relative]
    cases cwd with
    | none => cases done
    | some dir => exact makeFrom_makeAll done

theorem makeDirectories_paves (fs : FileSystem) {cwd : Option Location} {path : Bytes}
    {base : Location} {names : List Bytes} (descends : Descends cwd path base names) :
    Paves (base ++ names) fs (left (fs.makeDirectories cwd path)) ∧
      (left (fs.makeDirectories cwd path)).fresh = fs.fresh := by
  obtain ⟨parts,along,made⟩ := makeDirectories_left fs cwd path
  obtain ⟨front,way,same⟩ := descends.stops parts along
  rw [made,same]
  obtain ⟨paves,fresh⟩ := makeAll_paves fs (fun name present =>
    descends.named name (way.subset present)) base
  exact ⟨paves.further ((List.prefix_append_right_inj base).mpr way),fresh⟩

theorem resolve_walk {fs : FileSystem} {cwd : Option Location} {path : Bytes}
    {result : Location × Option Node} (found : fs.resolve cwd path = .ok result) :
    fs.walk (origin cwd path) (Path.components path) = .ok result := by
  unfold resolve at found
  unfold origin
  split at found
  · cases found
  · split at found
    · cases found
    · split at found
      · cases found
      · split at found
        · rename_i absolute
          simpa [absolute] using found
        · rename_i relative
          cases cwd with
          | none => cases found
          | some dir => simpa [relative] using found

theorem openFile_grows {fs opened : FileSystem} {cwd : Option Location} {path : Bytes}
    {base : Location} {names : List Bytes} (descends : Descends cwd path base names) {mode id : Nat}
    (done : fs.openFile cwd path mode = .ok (id,opened)) :
    Grows (base ++ names) fs opened := by
  unfold openFile at done
  split at done
  · cases done
  · cases done
  · cases done
    exact .refl _ fs
  · rename_i there found
    cases done
    have walked := resolve_walk found
    rw [descends.walk] at walked
    obtain ⟨rfl,free⟩ := walk_found descends.named walked
    exact set_grows free.symm (List.prefix_refl _) (.inr rfl)

-- Nothing at the end and no file on the way: the walk ends at something missing.
theorem walk_missing {fs : FileSystem} {names : List Bytes}
    (named : ∀ name ∈ names, Path.Name name) (fits : ∀ name ∈ names, name.length ≤ maxName)
    {base : Location} (empty : fs.get? (base ++ names) = none)
    (clear : ∀ above file, above <+: base ++ names → fs.get? above ≠ some (.file file)) :
    fs.walk base names = .error .noEntry ∨ ∃ place, fs.walk base names = .ok (place,none) := by
  induction names generalizing base with
  | nil =>
    rw [List.append_nil] at empty
    exact .inr ⟨base,by rw [FileSystem.walk,empty]⟩
  | cons name rest ih =>
    obtain ⟨first,others⟩ := List.forall_mem_cons.mp named
    obtain ⟨fit,rested⟩ := List.forall_mem_cons.mp fits
    have short : ¬ maxName < name.length := by omega
    rw [walk_name first,if_neg short]
    split
    · apply ih others rested
      · simpa using empty
      · intro above file way
        exact clear above file (by simpa using way)
    · rename_i file found
      have way : base ++ [name] <+: base ++ name :: rest := by simp
      exact (clear _ file way found).elim
    · split
      · exact .inr ⟨_,rfl⟩
      · exact .inl rfl

end FileSystem

namespace Host

def place (host : Host) (path : Bytes) : Location := FileSystem.place host.cwd path

-- A file that is not there though it could be: the system takes the path and its names, nothing
-- stands at its place, and no file stands where one of its directories would have to be.
structure Absent (host : Host) (path : Bytes) : Prop where
  written : path.contains 0 = false
  short : path.length ≤ FileSystem.maxPath
  fits : ∀ part ∈ Path.components path, part.length ≤ FileSystem.maxName
  empty : host.files.get? (host.place path) = none
  clear : ∀ above file, above <+: host.place path → host.files.get? above ≠ some (.file file)

theorem Absent.exact {host : Host} {path : Bytes} : host.Absent path ↔
    path.contains 0 = false ∧ path.length ≤ FileSystem.maxPath ∧
      (∀ part ∈ Path.components path, part.length ≤ FileSystem.maxName) ∧
      host.files.get? (host.place path) = none ∧
      ∀ depth ≤ (host.place path).length,
        ∀ node ∈ host.files.get? ((host.place path).take depth), node.isDirectory = true := by
  constructor
  · rintro ⟨written,short,fits,empty,clear⟩
    refine ⟨written,short,fits,empty,fun depth _ node found => ?_⟩
    cases node with
    | directory => rfl
    | file f => exact (clear _ f (List.take_prefix ..) found).elim
  · rintro ⟨written,short,fits,empty,clear⟩
    refine ⟨written,short,fits,empty,fun above file way found => ?_⟩
    rw [List.prefix_iff_eq_take.mp way] at found
    cases clear _ way.length_le _ found

instance (host : Host) (path : Bytes) : Decidable (host.Absent path) :=
  decidable_of_iff _ Absent.exact.symm

theorem Absent.stat {host : Host} {path : Bytes} (absent : host.Absent path) {base : Location}
    {names : List Bytes} (descends : FileSystem.Descends host.cwd path base names) :
    host.stat path = .error .noEntry := by
  have empty := absent.empty
  have clear := absent.clear
  rw [place,descends.place] at empty clear
  have missing := FileSystem.walk_missing descends.named
    (fun name present => absent.fits name (descends.inside name present)) empty clear
  rw [← descends.walk,FileSystem.origin] at missing
  have short : ¬ FileSystem.maxPath < path.length := by simpa using absent.short
  have resolved : host.files.resolve host.cwd path = .error .noEntry ∨
      ∃ there, host.files.resolve host.cwd path = .ok (there,none) := by
    simp only [FileSystem.resolve,absent.written,short,Bool.false_eq_true,if_false]
    split
    · exact .inl rfl
    · split
      · rename_i absolute
        simpa [absolute] using missing
      · rename_i relative
        cases cwd : host.cwd with
        | none => exact .inl rfl
        | some dir => simpa [relative,cwd] using missing
  rcases resolved with refused | ⟨there,free⟩
  · simp [Host.stat,FileSystem.stat,refused]
  · simp [Host.stat,FileSystem.stat,free]

-- Neither place lies on the way to the other.
def Apart (one two : Location) : Prop := ¬ one <+: two ∧ ¬ two <+: one

instance (one two : Location) : Decidable (Apart one two) := inferInstanceAs (Decidable (_ ∧ _))

theorem Absent.grows {before after : Host} {path : Bytes} {target : Location}
    (absent : before.Absent path) (stays : after.cwd = before.cwd)
    (grows : FileSystem.Grows target before.files after.files)
    (apart : Apart target (before.place path)) : after.Absent path := by
  have same : after.place path = before.place path := by rw [place,place,stays]
  refine ⟨absent.written,absent.short,absent.fits,?_,?_⟩
  · rw [same]
    rcases grows (before.place path) with kept | ⟨-,way,-⟩
    · rw [absent.empty] at kept
      simpa using kept
    · exact (apart.2 way).elim
  · intro above file way found
    rw [same] at way
    rcases grows above with kept | ⟨-,-,new⟩
    · rw [found] at kept
      cases old : before.files.get? above with
      | none => simp [old] at kept
      | some node =>
        cases node with
        | directory => simp [old,Node.isDirectory] at kept
        | file f => exact absent.clear above f way old
    · rcases new with directory | here
      · rw [found] at directory
        cases directory
      · exact apart.1 (here ▸ way)

end Host

namespace Log

theorem logs_name : Path.Name (text "logs") := ⟨by decide,by decide,by decide,by decide⟩
theorem log_name : Path.Name (text "orion.log") := ⟨by decide,by decide,by decide,by decide⟩

theorem path_descends (cwd : Option Location) (stateDir : Bytes) :
    ∃ base inner, FileSystem.Descends cwd (path stateDir) base
        (inner ++ [text "logs"] ++ [text "orion.log"]) ∧
      FileSystem.Descends cwd (Path.parent (path stateDir)) base (inner ++ [text "logs"]) := by
  have named : ∀ name ∈ [text "logs"], Path.Name name := List.forall_mem_singleton.mpr logs_name
  obtain ⟨base,inner,whole,front⟩ :=
    FileSystem.join_descends cwd stateDir named log_name
  exact ⟨base,inner,whole,front (by simp)⟩

-- Whatever becomes of an entry, files are touched only on the way to the log.
theorem Logger.record_grows (logger : Logger) (time : Moment) (entry : Entry) (host : Host) :
    (logger.record time entry host).2.cwd = host.cwd ∧
      FileSystem.Grows (host.place (path logger.stateDir)) host.files
        (logger.record time entry host).2.files := by
  obtain ⟨base,inner,whole,front⟩ := path_descends host.cwd logger.stateDir
  rw [Host.place,whole.place]
  have way : base ++ (inner ++ [text "logs"]) <+:
      base ++ (inner ++ [text "logs"] ++ [text "orion.log"]) := by simp
  unfold record
  split
  · cases handle : logger.handle with
    | some id =>
      rw [ensureFile,handle]
      exact ⟨rfl,FileSystem.modify_grows _ _ _ _⟩
    | none =>
      have grown := (FileSystem.makeDirectories_paves host.files front).1.grows way
      cases made : host.files.makeDirectories host.cwd (Path.parent (path logger.stateDir)) with
      | error stopped =>
        rw [made] at grown
        rw [ensureFile,handle,made,prepared,made]
        exact ⟨rfl,grown⟩
      | ok files =>
        rw [made] at grown
        cases opened : files.openFile host.cwd (path logger.stateDir) 0o640 with
        | error how =>
          simp only [ensureFile,handle,made,opened,Except.map,prepared]
          exact ⟨trivial,grown⟩
        | ok result =>
          obtain ⟨id,after⟩ := result
          simp only [ensureFile,handle,made,opened,Except.map]
          exact ⟨trivial,(grown.trans (FileSystem.openFile_grows whole opened)).trans
            (FileSystem.modify_grows _ _ _ _)⟩
  · exact ⟨rfl,.refl _ _⟩

end Log

end ScriptLauncher
