import Mathlib.Data.List.Infix
import ScriptLauncher.Worktree
import ScriptLauncher.Proofs.Absolute

namespace ScriptLauncher

namespace FileSystem

theorem location_spelled (place : Location) (inner : place ≠ []) :
    Host.locationPath place = place.flatMap (Bytes.slash :: ·) := by
  induction place with
  | nil => exact (inner rfl).elim
  | cons name rest ih =>
    cases rest with
    | nil => simp [Host.locationPath,Path.render,Bytes.join]
    | cons next rest =>
      have tail := ih (by simp)
      simp only [Host.locationPath,Path.render,if_true] at tail ⊢
      simp [Bytes.join,tail]

-- Where the path of an entry is taken, so are those of entries with no longer a name in the same
-- directory and in those above.
theorem Taken.beside {dir above : Location} {name other : Bytes} (taken : Taken (dir ++ [name]))
    (way : above <+: dir) (named : Path.Name other) (written : (0 : UInt8) ∉ other)
    (shorter : other.length ≤ name.length) : Taken (above ++ [other]) := by
  obtain ⟨rest,rfl⟩ := way
  have whole := location_spelled (above ++ rest ++ [name]) (by simp)
  have part := location_spelled (above ++ [other]) (by simp)
  have fit : other.length ≤ maxName := Nat.le_trans shorter (taken.fits name (by simp))
  refine ⟨?_,?_,?_,?_⟩
  · exact List.forall_mem_append.mpr
      ⟨fun name present => taken.named name (by simp [present]),
        List.forall_mem_singleton.mpr named⟩
  · exact List.forall_mem_append.mpr
      ⟨fun name present => taken.fits name (by simp [present]),
        List.forall_mem_singleton.mpr fit⟩
  · have free := taken.written
    rw [whole] at free
    rw [part]
    simp only [List.flatMap_append,List.contains_eq_mem,decide_eq_false_iff_not,List.mem_append,
      not_or] at free ⊢
    exact ⟨free.1.1,by simpa [written] using fun same : (0 : UInt8) = Bytes.slash => nomatch same⟩
  · have short := taken.short
    rw [whole] at short
    rw [part]
    simp only [List.flatMap_append,List.length_append,List.flatMap_cons,List.flatMap_nil,
      List.length_cons,List.length_nil] at short ⊢
    omega

-- A look at an entry of a directory that is there brings what the tree has.
theorem Sound.stat_entry {fs : FileSystem} (sound : Sound fs) {dir : Location} {name : Bytes}
    (stands : fs.get? dir = some .directory) (taken : Taken (dir ++ [name]))
    (cwd : Option Location) : fs.stat cwd (Path.join [Host.locationPath dir,name]) =
      (fs.get? (dir ++ [name])).elim (.error .noEntry) .ok := by
  obtain ⟨front,last⟩ := List.forall_mem_append.mp taken.named
  rw [Host.join_location front (last name (by simp)),FileSystem.stat,
    sound.resolve_entry stands taken]
  cases fs.get? (dir ++ [name]) <;> rfl

theorem told_there {node : Option Node} {found : Node} {how : Refusal}
    (told : (node.elim (.error how) .ok : Except Refusal Node) = .ok found) :
    node = some found := by
  cases node with
  | none => cases told
  | some node =>
    cases told
    rfl

end FileSystem

theorem Host.Sound.stat_directory {host : Host} (sound : host.Sound) {place : Location}
    (taken : FileSystem.Taken place) (stands : host.files.get? place = some .directory) :
    host.stat (Host.locationPath place) = .ok .directory := by
  rw [Host.stat,FileSystem.stat,sound.files.resolve_present taken stands]

namespace Worktree

open FileSystem (Spelled Taken)
open Host (locationPath)

theorem marker_name : Path.Name marker := by decide

-- The nearest directory with a marker, from a place upwards.
structure Nearest (fs : FileSystem) (place above : Location) : Prop where
  way : above <+: place
  marked : ∃ node, fs.get? (above ++ [marker]) = some node
  shadows : ∀ nearer, nearer <+: place → above <+: nearer → nearer ≠ above →
    fs.get? (nearer ++ [marker]) = none

theorem Nearest.lowest {fs : FileSystem} {place one other : Location}
    (first : Nearest fs place one) (second : Nearest fs place other) (below : one <+: other) :
    one = other := by
  by_contra different
  obtain ⟨node,there⟩ := second.marked
  rw [first.shadows other second.way below (Ne.symm different)] at there
  cases there

theorem Nearest.unique {fs : FileSystem} {place one other : Location}
    (first : Nearest fs place one) (second : Nearest fs place other) : one = other := by
  rcases List.prefix_or_prefix_of_prefix first.way second.way with below | below
  · exact first.lowest second below
  · exact (second.lowest first below).symm

theorem Nearest.here {fs : FileSystem} {place : Location} {node : Node}
    (there : fs.get? (place ++ [marker]) = some node) : Nearest fs place place := by
  refine ⟨List.prefix_refl _,⟨node,there⟩,fun nearer way below strict => ?_⟩
  exact (strict (way.eq_of_length_le below.length_le)).elim

theorem Nearest.below {fs : FileSystem} {dir above : Location} {name : Bytes}
    (nearest : Nearest fs dir above) (bare : fs.get? (dir ++ [name] ++ [marker]) = none) :
    Nearest fs (dir ++ [name]) above := by
  refine ⟨nearest.way.trans (List.prefix_append _ _),nearest.marked,?_⟩
  intro nearer way below strict
  rcases List.prefix_concat_iff.mp way with rfl | higher
  · exact bare
  · exact nearest.shadows nearer higher below strict

theorem Nearest.congr {one two : FileSystem} {place above : Location}
    (nearest : Nearest one place above)
    (same : ∀ inner, above <+: inner → two.get? inner = one.get? inner) :
    Nearest two place above := by
  refine ⟨nearest.way,?_,fun nearer way below strict => ?_⟩
  · rw [same _ (List.prefix_append _ _)]
    exact nearest.marked
  · rw [same _ (below.trans (List.prefix_append _ _))]
    exact nearest.shadows nearer way below strict

-- What a search from a place upwards comes to.
inductive Finds (fs : FileSystem) (place : Location) : Option Sighting → Prop where
  | marker (nearest : Nearest fs place above)
      (there : fs.get? (above ++ [Worktree.marker]) = some node) :
      Finds fs place (some ⟨locationPath above,locationPath above,node⟩)
  | nothing (bare : ∀ above, above <+: place → fs.get? (above ++ [Worktree.marker]) = none) :
      Finds fs place none

theorem Finds.below {fs : FileSystem} {dir : Location} {name : Bytes}
    {result : Option Sighting} (finds : Finds fs dir result)
    (missing : fs.get? (dir ++ [name] ++ [Worktree.marker]) = none) :
    Finds fs (dir ++ [name]) result := by
  cases finds with
  | marker nearest there => exact .marker (nearest.below missing) there
  | nothing bare =>
    refine .nothing fun above way => ?_
    rcases List.prefix_concat_iff.mp way with rfl | higher
    · exact missing
    · exact bare above higher

theorem ancestry_names {place : Location} (named : ∀ name ∈ place, Path.Name name) :
    ancestry (locationPath place) =
      (List.range (place.length + 1)).map fun k => locationPath (place.take (place.length - k)) := by
  have parts : (Path.components (locationPath place)).filter (fun part => !part.isEmpty) =
      place := by
    cases place with
    | nil => decide
    | cons name rest =>
      have split_ := Path.components_render true (List.cons_ne_nil name rest) fun part present =>
        (named part present).free
      have kept : (name :: rest).filter (fun part => !part.isEmpty) = name :: rest := by
        rw [List.filter_eq_self]
        intro part present
        simp [(named part present).some_]
      rw [locationPath,split_,List.filter_append,kept]
      rfl
  rw [ancestry,parts]
  rfl

theorem ancestry_root : ancestry (locationPath []) = [locationPath []] := by decide

-- The walk goes from a directory to the one that holds it.
theorem ancestry_step {dir : Location} {name : Bytes}
    (named : ∀ part ∈ dir ++ [name], Path.Name part) :
    ancestry (locationPath (dir ++ [name])) =
      locationPath (dir ++ [name]) :: ancestry (locationPath dir) := by
  have front := (List.forall_mem_append.mp named).1
  have whole : (dir ++ [name]).length = dir.length + 1 := by simp
  rw [ancestry_names named,ancestry_names front,whole,List.range_succ_eq_map,List.map_cons,
    List.map_map]
  congr 1
  · rw [Nat.sub_zero,← whole,List.take_length]
  · apply List.map_congr_left
    intro k present
    have higher : dir.length + 1 - (k + 1) = dir.length - k := by omega
    simp only [Function.comp_apply,Nat.succ_eq_add_one,higher]
    rw [List.take_append_of_le_length (by omega)]

theorem ancestry_first {place : Location} (named : ∀ part ∈ place, Path.Name part) :
    ∃ higher, ancestry (locationPath place) = locationPath place :: higher := by
  rcases List.eq_nil_or_concat place with rfl | ⟨dir,name,rfl⟩
  · exact ⟨[],ancestry_root⟩
  · rw [List.concat_eq_append] at named ⊢
    exact ⟨_,ancestry_step named⟩

-- Every directory from a place up to the root is looked at once, the nearest first.
theorem ancestry_places {place : Location} (named : ∀ part ∈ place, Path.Name part) :
    ancestry (locationPath place) = place.inits.reverse.map locationPath := by
  induction place using List.reverseRecOn with
  | nil => exact ancestry_root
  | append_singleton dir name ih =>
    obtain ⟨front,-⟩ := List.forall_mem_append.mp named
    rw [ancestry_step named,ih front]
    simp [List.inits_append]

section

variable {host : Host} {place : Location}

-- The system tells whether something is at a path.
def Answered (host : Host) (path : Bytes) : Prop :=
  (∃ node, host.stat path = .ok node) ∨ host.stat path = .error .noEntry

theorem Answered.taken (spelled : Spelled place)
    (answered : Answered host (Path.join [locationPath place,marker])) :
    Taken (place ++ [marker]) := by
  have entry := spelled.add marker_name (by decide)
  rw [Host.join_location spelled.named marker_name] at answered
  obtain ⟨written,short⟩ := FileSystem.stat_written answered
  exact ⟨entry.named,entry.fits,written,short⟩

theorem search_step (sound : host.Sound) (stands : host.files.get? place = some .directory)
    (taken : Taken (place ++ [marker])) (higher : List Bytes) :
    search host (locationPath place :: higher) =
      match host.files.get? (place ++ [marker]) with
      | some node => .ok (some ⟨locationPath place,locationPath place,node⟩)
      | none => search host higher := by
  have present := sound.stat_directory (taken.above (List.prefix_append _ _)) stands
  have looked : host.stat (Path.join [locationPath place,marker]) =
      (host.files.get? (place ++ [marker])).elim (.error .noEntry) .ok :=
    sound.files.stat_entry stands taken host.cwd
  rw [search,vantage,present]
  dsimp only
  rw [looked]
  cases host.files.get? (place ++ [marker]) <;> rfl

theorem marker_taken (taken : Taken (place ++ [marker])) {above : Location} (way : above <+: place) :
    Taken (above ++ [marker]) :=
  taken.beside way marker_name (by decide) (Nat.le_refl _)

theorem search_finds (sound : host.Sound) (stands : host.files.get? place = some .directory)
    (taken : Taken (place ++ [marker])) : ∃ result,
      search host (ancestry (locationPath place)) = .ok result ∧
        Finds host.files place result := by
  induction place using List.reverseRecOn with
  | nil =>
    rw [ancestry_root,search_step sound stands taken]
    cases found : host.files.get? ([] ++ [marker]) with
    | some node => exact ⟨_,rfl,.marker (.here found) found⟩
    | none =>
      refine ⟨_,rfl,.nothing fun above way => ?_⟩
      rw [List.prefix_nil.mp way]
      exact found
  | append_singleton dir name ih =>
    have front := List.prefix_append dir [name]
    have named := (taken.above (List.prefix_append _ _)).named
    rw [ancestry_step named,search_step sound stands taken]
    cases found : host.files.get? (dir ++ [name] ++ [marker]) with
    | some node => exact ⟨_,rfl,.marker (.here found) found⟩
    | none =>
      obtain ⟨result,searched,finds⟩ :=
        ih (sound.files.nested dir name _ stands) (marker_taken taken front)
      exact ⟨result,searched,finds.below found⟩

-- A search that ends well has looked into the directory that it starts from.
theorem search_looked (sound : host.Sound) (stands : host.files.get? place = some .directory)
    (spelled : Spelled place) {result : Option Sighting}
    (done : search host (ancestry (locationPath place)) = .ok result) :
    Taken (place ++ [marker]) := by
  obtain ⟨higher,first⟩ := ancestry_first spelled.named
  rw [first,search] at done
  split at done
  · cases done
  · rename_i start standing
    have told : Answered host (locationPath place) := by
      unfold vantage at standing
      split at standing
      · exact .inl ⟨_,‹_›⟩
      · exact .inl ⟨_,‹_›⟩
      · exact .inr ‹_›
      · cases standing
    obtain ⟨written,short⟩ := FileSystem.stat_written told
    have here : Taken place := ⟨spelled.named,spelled.fits,written,short⟩
    rw [vantage,sound.stat_directory here stands] at standing
    cases standing
    apply Answered.taken spelled
    split at done
    · exact .inl ⟨_,‹_›⟩
    · exact .inr ‹_›
    · cases done

-- A head is a file that is not empty, or one of the packed references.
def HasHead (fs : FileSystem) (git : Location) : Prop :=
  (∃ f, fs.get? (git ++ [text "HEAD"]) = some (.file f) ∧ f.data ≠ []) ∨
    ∃ f, fs.get? (git ++ [text "packed-refs"]) = some (.file f) ∧
      packedHead (lines f.data) = .ok true

theorem HasHead.congr {one two : FileSystem} {git : Location}
    (same : ∀ name, two.get? (git ++ [name]) = one.get? (git ++ [name])) :
    HasHead two git ↔ HasHead one git := by
  unfold HasHead
  rw [same,same]

-- The system answers every look for a marker from a place upwards. That a search gets to look in each
-- directory up to the root is assumed of it, and a look that is refused would end it; `marker_looks`
-- shows that none is where the path of the lowest one is within the system's bounds.
def Looks (host : Host) (place : Location) : Prop :=
  ∀ above, above <+: place → Answered host (Path.join [locationPath above,marker])

-- A directory is opened as a repository exactly when it has a head.
def OpensByHead (host : Host) (git : Location) : Prop :=
  ∃ found, checkRepository host (locationPath git) = .ok found ∧
    (found = true ↔ HasHead host.files git)

-- Looks are answered wherever the path of the lowest one is taken.
theorem marker_looks (sound : host.Sound) (stands : host.files.get? place = some .directory)
    (taken : Taken (place ++ [marker])) : Looks host place := by
  intro above way
  rw [Answered,Host.stat,
    sound.files.stat_entry (sound.files.up stands way) (marker_taken taken way)]
  cases host.files.get? (above ++ [marker]) with
  | some node => exact .inl ⟨node,rfl⟩
  | none => exact .inr rfl

-- A repository that shares nothing with another one, and whose packed references can be read.
structure Ordinary (fs : FileSystem) (git : Location) : Prop where
  stands : fs.get? git = some .directory
  taken : Taken (git ++ [text "packed-refs"])
  alone : fs.get? (git ++ [text "commondir"]) = none
  readable : fs.get? (git ++ [text "packed-refs"]) = none ∨
    ∃ f found, fs.get? (git ++ [text "packed-refs"]) = some (.file f) ∧
      packedHead (lines f.data) = .ok found

theorem Ordinary.stat {git : Location} (ordinary : Ordinary host.files git) (sound : host.Sound)
    (name : Bytes) (named : Path.Name name) (written : (0 : UInt8) ∉ name)
    (shorter : name.length ≤ (text "packed-refs").length) :
    host.stat (Path.join [locationPath git,name]) =
      (host.files.get? (git ++ [name])).elim (.error .noEntry) .ok :=
  sound.files.stat_entry ordinary.stands
    (ordinary.taken.beside (List.prefix_refl _) named written shorter) host.cwd

theorem Ordinary.commonDir {git : Location} (ordinary : Ordinary host.files git)
    (sound : host.Sound) : commonDir host (locationPath git) = .ok none := by
  have looked := ordinary.stat sound (text "commondir") (by decide) (by decide) (by decide)
  rw [ordinary.alone] at looked
  rw [Worktree.commonDir,Host.read,looked]
  rfl

theorem Ordinary.hasHead {git : Location} (ordinary : Ordinary host.files git)
    (sound : host.Sound) : ∃ found,
      hasHead host (locationPath git) (locationPath git) = .ok found ∧
        (found = true ↔ HasHead host.files git) := by
  have head := ordinary.stat sound (text "HEAD") (by decide) (by decide) (by decide)
  have packed := ordinary.stat sound (text "packed-refs") (by decide) (by decide) (by decide)
  unfold Worktree.hasHead
  rw [head]
  split
  · rename_i id mode b rest told
    exact ⟨true,rfl,fun _ => .inl ⟨_,FileSystem.told_there told,by simp⟩,fun _ => rfl⟩
  · rename_i none_
    have own : ¬ ∃ f, host.files.get? (git ++ [text "HEAD"]) = some (.file f) ∧ f.data ≠ [] := by
      rintro ⟨⟨id,mode,data⟩,there,some_⟩
      cases data with
      | nil => exact some_ rfl
      | cons b rest => exact none_ id mode b rest (by rw [there]; rfl)
    rw [Host.read,packed]
    rcases ordinary.readable with missing | ⟨f,found,there,read⟩
    · refine ⟨false,by rw [missing]; rfl,nofun,fun has => ?_⟩
      rcases has with head | ⟨f,there,-⟩
      · exact (own head).elim
      · rw [missing] at there
        cases there
    · refine ⟨found,by rw [there]; exact read,fun yes => .inr ⟨f,there,yes ▸ read⟩,fun has => ?_⟩
      rcases has with head | ⟨g,again,yes⟩
      · exact (own head).elim
      · rw [there] at again
        cases again
        rw [read] at yes
        cases yes
        rfl

theorem Ordinary.opens {git : Location} (ordinary : Ordinary host.files git)
    (sound : host.Sound) : OpensByHead host git := by
  unfold OpensByHead checkRepository
  rw [sound.stat_directory (ordinary.taken.above (List.prefix_append _ _)) ordinary.stands]
  dsimp only
  rw [ordinary.commonDir sound]
  exact ordinary.hasHead sound

-- What the nearest marker makes of the directory it stands in.
structure Decided (host : Host) (dir : Bytes) (above : Location) : Prop where
  head : HasHead host.files (above ++ [marker]) → root host dir = .ok (locationPath above)
  headless : ¬ HasHead host.files (above ++ [marker]) → root host dir = .error missing

theorem Decided.agree {other : Host} {dir : Bytes} {above : Location}
    (decided : Decided host dir above) (again : Decided other dir above)
    (heads : HasHead other.files (above ++ [marker]) ↔ HasHead host.files (above ++ [marker])) :
    root other dir = root host dir := by
  by_cases has : HasHead host.files (above ++ [marker])
  · rw [decided.head has,again.head (heads.mpr has)]
  · rw [decided.headless has,again.headless (mt heads.mp has)]

-- A repository that is chosen and examined decides; one without a worktree, or without a head, is none.
theorem root_opened {dir path : Bytes} {repository : Repository} {valid : Bool}
    (absolute : host.absolute dir = .ok path)
    (chosen : Worktree.named host path = .ok repository)
    (checked : checkRepository host repository.git = .ok valid) : root host dir =
      (if valid then repository.worktree else none).elim (.error missing) .ok := by
  obtain ⟨git,worktree⟩ := repository
  simp only [root,absolute,locate,chosen,checked,Except.map]
  cases valid <;> cases worktree <;> rfl

theorem root_refused {dir path : Bytes} {repository : Repository} {fault : Fault}
    (absolute : host.absolute dir = .ok path)
    (chosen : Worktree.named host path = .ok repository)
    (refused : checkRepository host repository.git = .error fault) :
    root host dir = .error (.context (text "open repository: ") fault) := by
  simp only [root,absolute,locate,chosen,refused,Except.map]

theorem root_found {dir found : Bytes} (absolute : host.absolute dir = .ok (locationPath place))
    (rooted : root host dir = .ok found) : ∃ sighting,
      search host (ancestry (locationPath place)) = .ok (some sighting) ∧
        found = sighting.root := by
  cases chosen : Worktree.named host (locationPath place) with
  | error fault => simp [root,absolute,locate,chosen] at rooted
  | ok repository =>
    cases checked : checkRepository host repository.git with
    | error fault =>
      rw [root_refused absolute chosen checked] at rooted
      cases rooted
    | ok valid =>
      rw [root_opened absolute chosen checked] at rooted
      unfold Worktree.named at chosen
      split at chosen
      · cases chosen
      · cases chosen
        cases valid <;> cases rooted
      · rename_i sighting seen
        cases named : gitDir sighting with
        | error fault =>
          rw [named] at chosen
          cases chosen
        | ok git =>
          rw [named] at chosen
          cases chosen
          cases valid <;> cases rooted
          exact ⟨sighting,seen,rfl⟩

theorem root_nearest (sound : host.Sound) (stands : host.files.get? place = some .directory)
    (spelled : Spelled place) {dir found : Bytes}
    (absolute : host.absolute dir = .ok (locationPath place))
    (rooted : root host dir = .ok found) : ∃ above,
      Nearest host.files place above ∧ found = locationPath above := by
  obtain ⟨sighting,seen,rfl⟩ := root_found absolute rooted
  obtain ⟨result,searched,finds⟩ :=
    search_finds sound stands (search_looked sound stands spelled seen)
  rw [seen] at searched
  cases searched
  cases finds with
  | marker nearest there => exact ⟨_,nearest,rfl⟩

-- What becomes of a directory without a marker above it: the root directory is tried, and where that
-- can be examined there is no worktree, whether or not it holds a head.
structure Unmarked (host : Host) (dir : Bytes) : Prop where
  missing (found : Bool) : checkRepository host (locationPath []) = .ok found →
    root host dir = .error Worktree.missing
  refused (fault : Fault) : checkRepository host (locationPath []) = .error fault →
    root host dir = .error (.context (text "open repository: ") fault)

theorem root_unmarked (sound : host.Sound) (stands : host.files.get? place = some .directory)
    (taken : Taken (place ++ [marker])) {dir : Bytes}
    (absolute : host.absolute dir = .ok (locationPath place))
    (bare : ∀ above, above <+: place → host.files.get? (above ++ [marker]) = none) :
    Unmarked host dir := by
  obtain ⟨result,searched,finds⟩ := search_finds sound stands taken
  cases finds with
  | marker nearest there =>
    rw [bare _ nearest.way] at there
    cases there
  | nothing =>
    have chosen : Worktree.named host (locationPath place) = .ok ⟨locationPath [],none⟩ := by
      rw [Worktree.named,searched]
    refine ⟨fun found checked => ?_,fun fault refused => root_refused absolute chosen refused⟩
    rw [root_opened absolute chosen checked]
    cases found <;> rfl

theorem root_decided (sound : host.Sound) (stands : host.files.get? place = some .directory)
    (taken : Taken (place ++ [marker])) {dir : Bytes}
    (absolute : host.absolute dir = .ok (locationPath place)) {above : Location}
    (nearest : Nearest host.files place above)
    (directory : host.files.get? (above ++ [marker]) = some .directory)
    (opens : OpensByHead host (above ++ [marker])) : Decided host dir above := by
  obtain ⟨result,searched,finds⟩ := search_finds sound stands taken
  obtain ⟨valid,checked,holds⟩ := opens
  have named : ∀ part ∈ above, Path.Name part :=
    (taken.above (nearest.way.trans (List.prefix_append _ _))).named
  cases finds with
  | nothing bare =>
    rw [bare _ nearest.way] at directory
    cases directory
  | @marker other node again there =>
    obtain rfl := again.unique nearest
    rw [directory] at there
    cases there
    have chosen : Worktree.named host (locationPath place) =
        .ok ⟨locationPath (other ++ [marker]),some (locationPath other)⟩ := by
      rw [Worktree.named,searched]
      dsimp only [gitDir]
      rw [Host.join_location named marker_name]
      rfl
    have decided := root_opened absolute chosen checked
    refine ⟨fun has => ?_,fun lacks => ?_⟩
    · rw [decided,if_pos (holds.mpr has)]
      rfl
    · rw [decided,if_neg fun yes => lacks (holds.mp yes)]
      rfl

end

-- The nearest marker decides, whatever stands above it. What is found is the directory that it stands
-- in; without a marker there is no worktree; and where the marker is a directory, what is found is up
-- to its head, and the same on all hosts that agree on the directory it stands in. The way up is finite
-- for every path.
theorem nearest_worktree_wins {host : Host} (grounded : host.Grounded) {dir : Bytes}
    {place : Location} (leads : host.files.resolve host.cwd dir = .ok (place,some .directory)) :
    host.absolute dir = .ok (locationPath place) ∧
    (∀ found, root host dir = .ok found → Path.isAbsolute found = true ∧
      ∃ above, Nearest host.files place above ∧ found = locationPath above) ∧
    (Looks host place →
      (∀ above, above <+: place → host.files.get? (above ++ [marker]) = none) →
      Unmarked host dir) ∧
    (Looks host place → ∀ above, Nearest host.files place above →
      host.files.get? (above ++ [marker]) = some .directory →
      OpensByHead host (above ++ [marker]) → Decided host dir above ∧
      ∀ other : Host, other.Grounded →
        other.files.resolve other.cwd dir = .ok (place,some .directory) →
        (∀ inner, above <+: inner → other.files.get? inner = host.files.get? inner) →
        OpensByHead other (above ++ [marker]) → root other dir = root host dir) ∧
    ∀ start path, host.absolute start = .ok path → ∃ base, path = locationPath base ∧
      ancestry path = base.inits.reverse.map locationPath := by
  obtain ⟨spelled,absolute⟩ := grounded.absolute leads
  have sound := grounded.toSound
  have stands := sound.reached leads
  refine ⟨absolute,fun found rooted => ?_,fun looks bare => ?_,?_,?_⟩
  · obtain ⟨above,nearest,rfl⟩ := root_nearest sound stands spelled absolute rooted
    exact ⟨rfl,above,nearest,rfl⟩
  · exact root_unmarked sound stands ((looks place (List.prefix_refl _)).taken spelled) absolute bare
  · intro looks above nearest directory opens
    have taken := (looks place (List.prefix_refl _)).taken spelled
    have decided := root_decided sound stands taken absolute nearest directory opens
    refine ⟨decided,fun other grounded_ leads_ same opens_ => ?_⟩
    have directory_ : other.files.get? (above ++ [marker]) = some .directory :=
      (same _ (List.prefix_append _ _)).trans directory
    have again : Decided other dir above :=
      root_decided grounded_.toSound (grounded_.toSound.reached leads_) taken
        (grounded_.absolute leads_).2 (nearest.congr same) directory_ opens_
    exact decided.agree again (HasHead.congr fun name => same _ (by simp))
  · intro start path from_
    obtain ⟨base,named,rfl⟩ := Host.absolute_location from_
    exact ⟨base,rfl,ancestry_places named⟩

-- A repository in a repository, and a directory below both.
def nestedHost : Host :=
  let outer := Host.put ⟨.empty,none,[]⟩ (text "/a/.git/HEAD") (text "ref: outer\n") 0o644
  let inner := outer.put (text "/a/b/.git/HEAD") (text "ref: inner\n") 0o644
  (inner.makeDirectory (text "/a/b/c")).changeDirectory (text "/a/b/c")

def nestedPlace : Location := [text "a",text "b",text "c"]

theorem nested_grounded : nestedHost.Grounded where
  toSound := by
    unfold nestedHost
    exact (((Host.Sound.put Host.bare_sound ..).put ..).makeDirectory _).changeDirectory _
  spelled here same := by
    have place : nestedHost.cwd = some nestedPlace := by rfl
    rw [place] at same
    cases same
    exact ⟨by decide,by decide⟩

-- The same without the outer repository.
def innerHost : Host := nestedHost.remove (text "/a/.git")

theorem innerHost_grounded : innerHost.Grounded := nested_grounded.remove _

theorem innerHost_agrees {inner : Location} (below : [text "a",text "b"] <+: inner) :
    innerHost.files.get? inner = nestedHost.files.get? inner := by
  have taken : Taken [text "a",marker] := ⟨by decide,by decide,by decide,by decide⟩
  have removed := (nested_grounded.files.removeAll taken nestedHost.cwd).2 inner
  have spelled : locationPath [text "a",marker] = text "/a/.git" := by decide
  rw [spelled] at removed
  rw [innerHost,Host.remove,removed,if_neg]
  rintro ⟨other,-⟩
  rcases List.prefix_or_prefix_of_prefix below other with way | way
  · exact absurd way (by decide)
  · exact absurd way (by decide)

theorem inner_worktree_hides_outer :
    root nestedHost (text "../c/.") = .ok (text "/a/b") ∧
      root innerHost (text "../c/.") = .ok (text "/a/b") ∧
      root (innerHost.remove (text "/a/b/.git")) (text "../c/.") = .error missing := by
  have leads : nestedHost.files.resolve nestedHost.cwd (text "../c/.") =
      .ok (nestedPlace,some .directory) := by rfl
  have taken : Taken (nestedPlace ++ [marker]) := ⟨by decide,by decide,by decide,by decide⟩
  have refs : Taken ([text "a",text "b",marker] ++ [text "packed-refs"]) :=
    ⟨by decide,by decide,by decide,by decide⟩
  have marked : nestedHost.files.get? ([text "a",text "b"] ++ [marker]) = some .directory := by rfl
  have nearest : Nearest nestedHost.files ([text "a",text "b"] ++ [text "c"])
      [text "a",text "b"] := (Nearest.here marked).below (by rfl)
  have ordinary : Ordinary nestedHost.files [text "a",text "b",marker] :=
    ⟨by rfl,refs,by rfl,.inl (by rfl)⟩
  have alone : Ordinary innerHost.files [text "a",text "b",marker] :=
    ⟨by rfl,refs,by rfl,.inl (by rfl)⟩
  have head : HasHead nestedHost.files [text "a",text "b",marker] :=
    .inl ⟨⟨1,0o644,text "ref: inner\n"⟩,by rfl,by decide⟩
  obtain ⟨-,-,-,decides,-⟩ := nearest_worktree_wins nested_grounded leads
  obtain ⟨decided,same⟩ := decides (marker_looks nested_grounded.toSound (by rfl) taken) _ nearest
    marked (ordinary.opens nested_grounded.toSound)
  have found := decided.head head
  refine ⟨found,?_,?_⟩
  · rw [same innerHost innerHost_grounded (by rfl) (fun inner => innerHost_agrees)
      (alone.opens innerHost_grounded.toSound)]
    exact found
  · have grounded := innerHost_grounded.remove (text "/a/b/.git")
    have still : (innerHost.remove (text "/a/b/.git")).files.resolve innerHost.cwd
        (text "../c/.") = .ok (nestedPlace,some .directory) := by rfl
    have top : Ordinary (innerHost.remove (text "/a/b/.git")).files [] :=
      ⟨by rfl,⟨by decide,by decide,by decide,by decide⟩,by rfl,.inl (by rfl)⟩
    obtain ⟨found,checked,-⟩ := top.opens grounded.toSound
    obtain ⟨-,-,misses,-⟩ := nearest_worktree_wins grounded still
    refine (misses (marker_looks grounded.toSound (by rfl) taken) fun above way => ?_).missing found
      checked
    have listed := (List.mem_inits above nestedPlace).mpr way
    simp only [nestedPlace,List.inits,List.map_cons,List.map_nil,List.mem_cons,List.not_mem_nil,
      or_false] at listed
    rcases listed with rfl | rfl | rfl | rfl <;> rfl

end Worktree

end ScriptLauncher
