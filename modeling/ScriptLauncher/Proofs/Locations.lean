import ScriptLauncher.Proofs.Soundness

namespace ScriptLauncher

theorem Bytes.join_grows (sep : UInt8) (front back : List Bytes) :
    join [sep] front <+: join [sep] (front ++ back) := by
  induction front with
  | nil => exact List.nil_prefix
  | cons piece rest ih =>
    cases rest with
    | nil =>
      cases back with
      | nil => exact List.prefix_refl _
      | cons next back => simp [join]
    | cons next rest =>
      obtain ⟨tail,glued⟩ := ih
      refine ⟨tail,?_⟩
      simp only [List.cons_append,join] at glued ⊢
      rw [← glued]
      simp

namespace FileSystem

-- A walk along directories reaches whatever is at its end.
theorem walk_reaches {fs : FileSystem} {names : List Bytes}
    (named : ∀ name ∈ names, Path.Name name) (fits : ∀ name ∈ names, name.length ≤ maxName)
    {base : Location}
    (opened : ∀ above, above <+: names → above ≠ names →
      fs.get? (base ++ above) = some .directory) :
    fs.walk base names = .ok (base ++ names,fs.get? (base ++ names)) := by
  induction names generalizing base with
  | nil => simp [FileSystem.walk]
  | cons name rest ih =>
    obtain ⟨first,others⟩ := List.forall_mem_cons.mp named
    obtain ⟨fit,fitting⟩ := List.forall_mem_cons.mp fits
    have short : ¬ maxName < name.length := by omega
    rw [walk_name first,if_neg short]
    by_cases last : rest = []
    · subst last
      split
      · rename_i found
        simp [FileSystem.walk,found]
      · rename_i found
        simp [found]
      · rename_i missing
        simp [missing]
    · have next := opened [name] (by simp) (by simpa using Ne.symm last)
      rw [next]
      have inner (above : List Bytes) (way : above <+: rest) (strict : above ≠ rest) :
          fs.get? (base ++ [name] ++ above) = some .directory := by
        have there := opened (name :: above) (by simpa using way) (by simpa using strict)
        simpa using there
      simpa using ih others fitting inner

-- Making directories where nothing is in the way: all of them stand afterwards, and nothing else has
-- changed.
theorem makeAll_exact {fs : FileSystem} {names : List Bytes}
    (named : ∀ name ∈ names, Path.Name name) (fits : ∀ name ∈ names, name.length ≤ maxName)
    {base : Location} (stands : ∀ above, above <+: base → fs.get? above = some .directory)
    (clear : ∀ above f, above <+: base ++ names → fs.get? above ≠ some (.file f)) :
    ∃ made, fs.makeAll base names = .ok made ∧ made.fresh = fs.fresh ∧
      ∀ place, made.get? place =
        if place <+: base ++ names then some .directory else fs.get? place := by
  induction names generalizing fs base with
  | nil =>
    refine ⟨fs,rfl,rfl,fun place => ?_⟩
    split
    · rename_i way
      exact stands place (by simpa using way)
    · rfl
  | cons name rest ih =>
    obtain ⟨first,others⟩ := List.forall_mem_cons.mp named
    obtain ⟨fit,fitting⟩ := List.forall_mem_cons.mp fits
    have short : ¬ maxName < name.length := by omega
    have whole : base ++ [name] ++ rest = base ++ name :: rest := by simp
    rw [makeAll_name first,if_neg short]
    split
    · rename_i found
      have stands' (above : Location) (way : above <+: base ++ [name]) :
          fs.get? above = some .directory := by
        rcases List.prefix_concat_iff.mp way with rfl | higher
        · exact found
        · exact stands above higher
      simpa [whole] using ih others fitting stands' (by simpa [whole] using clear)
    · rename_i f found
      exact (clear _ f (by simp) found).elim
    · rename_i missing
      have inner : base ++ [name] ≠ [] := by simp
      have stands' (above : Location) (way : above <+: base ++ [name]) :
          (fs.set (base ++ [name]) .directory).get? above = some .directory := by
        rw [get?_set fs inner]
        rcases List.prefix_concat_iff.mp way with rfl | higher
        · simp
        · simp [stands above higher]
      have clear' (above : Location) (f : File) (way : above <+: base ++ [name] ++ rest) :
          (fs.set (base ++ [name]) .directory).get? above ≠ some (.file f) := by
        rw [get?_set fs inner]
        split
        · simp
        · exact clear above f (whole ▸ way)
      obtain ⟨made,done,fresh,exact_⟩ := ih others fitting stands' clear'
      refine ⟨made,done,fresh,fun place => ?_⟩
      rw [exact_,whole,get?_set fs inner]
      by_cases way : place <+: base ++ name :: rest
      · simp [way]
      · have other : place ≠ base ++ [name] := by
          rintro rfl
          exact way (by simp)
        simp [way,other]

theorem makeAll_fits {fs made : FileSystem} {names : List Bytes}
    (named : ∀ name ∈ names, Path.Name name) {base : Location}
    (done : fs.makeAll base names = .ok made) :
    (∀ name ∈ names, name.length ≤ maxName) ∧
      ∀ above f, above <+: names → above ≠ [] → fs.get? (base ++ above) ≠ some (.file f) := by
  induction names generalizing fs base with
  | nil => exact ⟨by simp,fun above f way inner => (inner (List.prefix_nil.mp way)).elim⟩
  | cons name rest ih =>
    obtain ⟨first,others⟩ := List.forall_mem_cons.mp named
    rw [makeAll_name first] at done
    split at done
    · cases done
    · rename_i short
      have fit : name.length ≤ maxName := by omega
      -- What lies below is the same whether the directory was there or is made now.
      have further {next : FileSystem} (free : ∀ f, fs.get? (base ++ [name]) ≠ some (.file f))
          (same : ∀ place, place ≠ base ++ [name] → next.get? place = fs.get? place)
          (going : next.makeAll (base ++ [name]) rest = .ok made) :
          (∀ part ∈ name :: rest, part.length ≤ maxName) ∧ ∀ above f, above <+: name :: rest →
            above ≠ [] → fs.get? (base ++ above) ≠ some (.file f) := by
        obtain ⟨fitting,clear⟩ := ih others going
        refine ⟨List.forall_mem_cons.mpr ⟨fit,fitting⟩,fun above f way inner => ?_⟩
        cases above with
        | nil => exact (inner rfl).elim
        | cons head above =>
          obtain ⟨rfl,below⟩ := List.cons_prefix_cons.mp way
          by_cases here : above = []
          · simpa [here] using free f
          · have there := clear above f below here
            rw [same _ (by simpa using here)] at there
            simpa using there
      split at done
      · rename_i found
        exact further (by simp [found]) (fun _ _ => rfl) done
      · cases done
      · rename_i missing
        exact further (by simp [missing]) (fun place other => by
          rw [get?_set fs (by simp)]
          simp [other]) done

-- A place whose absolute path the system takes.
structure Taken (place : Location) : Prop where
  named : ∀ name ∈ place, Path.Name name
  fits : ∀ name ∈ place, name.length ≤ maxName
  written : (Host.locationPath place).contains 0 = false
  short : (Host.locationPath place).length ≤ maxPath

theorem Taken.above {place above : Location} (taken : Taken place) (way : above <+: place) :
    Taken above := by
  obtain ⟨rest,rfl⟩ := way
  have path : Host.locationPath above <+: Host.locationPath (above ++ rest) := by
    obtain ⟨tail,glued⟩ := Bytes.join_grows Bytes.slash above rest
    exact ⟨tail,by simp [Host.locationPath,Path.render,glued]⟩
  have inside := path.sublist.subset
  refine ⟨fun name present => taken.named name (List.mem_append_left _ present),
    fun name present => taken.fits name (List.mem_append_left _ present),?_,?_⟩
  · have written := taken.written
    simp only [List.contains_eq_mem,decide_eq_false_iff_not] at written ⊢
    exact fun present => written (inside present)
  · exact Nat.le_trans path.length_le taken.short

-- The path of a place leads along its names from the root.
theorem location_components (place : Location) (named : ∀ name ∈ place, Path.Name name)
    (fs : FileSystem) :
    Path.isAbsolute (Host.locationPath place) = true ∧
      fs.walk [] (Path.components (Host.locationPath place)) = fs.walk [] place ∧
      fs.makeAll [] (Path.components (Host.locationPath place)) = fs.makeAll [] place := by
  refine ⟨rfl,?_⟩
  cases place with
  | nil => exact ⟨rfl,rfl⟩
  | cons name rest =>
    have parts := Path.components_render true (List.cons_ne_nil name rest) fun part present =>
      (named part present).free
    rw [Host.locationPath,parts]
    exact ⟨rfl,rfl⟩

theorem Taken.resolve {place : Location} (taken : Taken place) (fs : FileSystem)
    (cwd : Option Location) : fs.resolve cwd (Host.locationPath place) = fs.walk [] place := by
  obtain ⟨absolute,walked,-⟩ := location_components place taken.named fs
  have some_ : (Host.locationPath place).isEmpty = false := rfl
  have short := Nat.not_lt.mpr taken.short
  simp only [FileSystem.resolve,taken.written,some_,absolute,short,if_true,Bool.false_eq_true,
    if_false]
  exact walked

theorem Taken.makeDirectories {place : Location} (taken : Taken place) (fs : FileSystem)
    (cwd : Option Location) :
    fs.makeDirectories cwd (Host.locationPath place) = fs.makeAll [] place := by
  obtain ⟨absolute,-,made⟩ := location_components place taken.named fs
  have short := Nat.not_lt.mpr taken.short
  simp only [FileSystem.makeDirectories,makeFrom,taken.written,absolute,short,if_true,
    Bool.false_eq_true,if_false]
  exact made

theorem Sound.resolve_present {fs : FileSystem} (sound : Sound fs) {place : Location}
    (taken : Taken place) {node : Node} (found : fs.get? place = some node)
    (cwd : Option Location) :
    fs.resolve cwd (Host.locationPath place) = .ok (place,some node) := by
  have reached : fs.walk [] place = .ok ([] ++ place,fs.get? ([] ++ place)) :=
    walk_reaches taken.named taken.fits fun above way strict => sound.above found way strict
  rw [taken.resolve,reached,List.nil_append,found]

-- In a directory that is there, a path leads to its place whether anything stands at it or not.
theorem Sound.resolve_entry {fs : FileSystem} (sound : Sound fs) {dir : Location} {name : Bytes}
    (stands : fs.get? dir = some .directory) (taken : Taken (dir ++ [name]))
    (cwd : Option Location) : fs.resolve cwd (Host.locationPath (dir ++ [name])) =
      .ok (dir ++ [name],fs.get? (dir ++ [name])) := by
  have opened (above : Location) (way : above <+: dir ++ [name]) (strict : above ≠ dir ++ [name]) :
      fs.get? ([] ++ above) = some .directory := by
    rcases List.prefix_concat_iff.mp way with rfl | higher
    · exact (strict rfl).elim
    · exact sound.up stands higher
  rw [taken.resolve]
  exact walk_reaches taken.named taken.fits opened

-- Removing what stands at a place takes all below it away, and nothing else.
theorem Sound.removeAll {fs : FileSystem} (sound : Sound fs) {place : Location}
    (taken : Taken place) (cwd : Option Location) :
    (fs.removeAll cwd (Host.locationPath place)).fresh = fs.fresh ∧
      ∀ other, (fs.removeAll cwd (Host.locationPath place)).get? other =
        if place <+: other ∧ other ≠ [] then none else fs.get? other := by
  cases found : fs.get? place with
  | some node =>
    have resolved := sound.resolve_present taken found cwd
    have erased : fs.removeAll cwd (Host.locationPath place) = fs.erase place := by
      simp only [FileSystem.removeAll,resolved]
      rfl
    rw [erased]
    exact ⟨rfl,get?_erase fs place⟩
  | none =>
    have kept : fs.removeAll cwd (Host.locationPath place) = fs := by
      unfold FileSystem.removeAll
      split
      · rename_i there node resolved
        rw [taken.resolve] at resolved
        obtain ⟨rfl,here⟩ := walk_found taken.named resolved
        rw [found] at here
        cases here
      · rfl
    rw [kept]
    refine ⟨rfl,fun other => ?_⟩
    split
    · rename_i below
      exact sound.below found below.1
    · rfl

-- A place where a file stands or can be made to stand.
structure Fillable (fs : FileSystem) (place : Location) : Prop where
  sound : Sound fs
  clear : ∀ above f, above <+: place → above ≠ place → fs.get? above ≠ some (.file f)
  spot : fs.get? place ≠ some .directory

theorem Fillable.modify {fs : FileSystem} {place : Location} (fillable : Fillable fs place)
    (id : Nat) (change : Bytes → Bytes) : Fillable (fs.modify id change) place := by
  refine ⟨(fillable.sound.modify id change).sound,fun above f way strict found => ?_,
    fun found => ?_⟩
  · obtain ⟨old,was,-,same⟩ := modify_kept found
    obtain ⟨g,rfl,-⟩ := same f rfl
    exact fillable.clear above g way strict was
  · obtain ⟨old,was,kind,-⟩ := modify_kept found
    cases old with
    | directory => exact fillable.spot was
    | file g => cases kind

theorem Fillable.removeAll {fs : FileSystem} {place above : Location}
    (fillable : Fillable fs place) (taken : Taken place) (way : above <+: place)
    (cwd : Option Location) :
    Fillable (fs.removeAll cwd (Host.locationPath above)) place ∧
      (place ≠ [] → (fs.removeAll cwd (Host.locationPath above)).get? place = none) ∧
      (fs.removeAll cwd (Host.locationPath above)).fresh = fs.fresh := by
  obtain ⟨fresh,exact_⟩ := fillable.sound.removeAll (taken.above way) cwd
  obtain ⟨sound,was⟩ := fillable.sound.removed cwd (Host.locationPath above)
  refine ⟨⟨sound,fun other f along strict found => ?_,fun found => ?_⟩,fun inner => ?_,fresh⟩
  · exact fillable.clear other f along strict (was other _ found)
  · exact fillable.spot (was place _ found)
  · rw [exact_,if_pos ⟨way,inner⟩]

-- What opening a file for writing does at its place: a file that was there is the one that is
-- opened, and a new one is empty and has an identity of its own.
structure Opens (place : Location) (before after : FileSystem) (f : File) : Prop where
  fillable : Fillable after place
  there : after.get? place = some (.file f)
  kept : ∀ g, before.get? place = some (.file g) → f = g
  made : before.get? place = none → f.id = before.fresh ∧ f.data = []
  older : before.fresh ≤ after.fresh

theorem Fillable.reopens {fs : FileSystem} {place : Location} (fillable : Fillable fs place)
    {f : File} (there : fs.get? place = some (.file f)) : Opens place fs fs f := by
  refine ⟨fillable,there,fun g found => ?_,fun missing => ?_,Nat.le_refl _⟩
  · rw [there] at found
    cases found
    rfl
  · rw [there] at missing
    cases missing

theorem prefix_shorter {dir above : Location} {name : Bytes} (way : above <+: dir) :
    above <+: dir ++ [name] ∧ above ≠ dir ++ [name] := by
  refine ⟨way.trans (List.prefix_append _ _),?_⟩
  rintro rfl
  have longer := way.length_le
  rw [List.length_append,List.length_singleton] at longer
  omega

theorem Fillable.makes {fs : FileSystem} {dir : Location} {name : Bytes}
    (fillable : Fillable fs (dir ++ [name])) (taken : Taken (dir ++ [name]))
    (cwd : Option Location) :
    ∃ made, fs.makeDirectories cwd (Host.locationPath dir) = .ok made ∧
      made.fresh = fs.fresh ∧ Fillable made (dir ++ [name]) ∧ made.get? dir = some .directory ∧
      made.get? (dir ++ [name]) = fs.get? (dir ++ [name]) := by
  have above := taken.above (List.prefix_append dir [name])
  have root (top : Location) (way : top <+: []) : fs.get? top = some .directory := by
    rw [List.prefix_nil.mp way]
    rfl
  have clear (top : Location) (f : File) (way : top <+: [] ++ dir) :
      fs.get? top ≠ some (.file f) := by
    obtain ⟨along,strict⟩ := prefix_shorter way
    exact fillable.clear top f along strict
  obtain ⟨made,done,fresh,exact_⟩ := makeAll_exact above.named above.fits root clear
  rw [List.nil_append] at exact_
  have off : ¬ dir ++ [name] <+: dir := fun way => (prefix_shorter way).2 rfl
  have old {other : Location} {f : File} (found : made.get? other = some (.file f)) :
      fs.get? other = some (.file f) := by
    rw [exact_] at found
    split at found
    · cases found
    · exact found
  have keeps : Keeps fs (left (.ok made)) := done ▸ makeAll_keeps fillable.sound rfl dir
  refine ⟨made,(above.makeDirectories fs cwd).trans done,fresh,⟨keeps.sound,?_,?_⟩,?_,?_⟩
  · intro other f way strict found
    exact fillable.clear other f way strict (old found)
  · rw [exact_,if_neg off]
    exact fillable.spot
  · rw [exact_,if_pos (List.prefix_refl _)]
  · rw [exact_,if_neg off]

-- A new file in a directory that is there.
theorem Fillable.adds {fs : FileSystem} {dir : Location} {name : Bytes}
    (fillable : Fillable fs (dir ++ [name])) (stands : fs.get? dir = some .directory)
    (missing : fs.get? (dir ++ [name]) = none) (mode : Nat) :
    Opens (dir ++ [name]) fs
      { fs.set (dir ++ [name]) (.file ⟨fs.fresh,mode,[]⟩) with fresh := fs.fresh + 1 }
      ⟨fs.fresh,mode,[]⟩ := by
  have exact_ := get?_add fs dir name (.file ⟨fs.fresh,mode,[]⟩) (fs.fresh + 1)
  have keeps := fillable.sound.add stands missing (Nat.le_succ fs.fresh)
    fun f (same : Node.file ⟨fs.fresh,mode,[]⟩ = .file f) => by
      cases same
      exact Nat.lt_succ_self _
  refine ⟨⟨keeps.sound,?_,?_⟩,?_,?_,fun _ => ⟨rfl,rfl⟩,Nat.le_succ _⟩
  · intro above f way strict found
    rw [exact_,if_neg strict] at found
    exact fillable.clear above f way strict found
  · rw [exact_,if_pos rfl]
    simp
  · rw [exact_,if_pos rfl]
  · intro g found
    rw [missing] at found
    cases found

theorem Fillable.openFile {fs : FileSystem} {dir : Location} {name : Bytes}
    (fillable : Fillable fs (dir ++ [name])) (taken : Taken (dir ++ [name]))
    (stands : fs.get? dir = some .directory) (cwd : Option Location) (mode : Nat) :
    ∃ f opened, fs.openFile cwd (Host.locationPath (dir ++ [name])) mode = .ok (f.id,opened) ∧
      Opens (dir ++ [name]) fs opened f := by
  have resolved := fillable.sound.resolve_entry stands taken cwd
  cases found : fs.get? (dir ++ [name]) with
  | none =>
    refine ⟨_,_,?_,fillable.adds stands found mode⟩
    rw [FileSystem.openFile,resolved,found]
  | some node =>
    cases node with
    | directory => exact (fillable.spot found).elim
    | file f =>
      refine ⟨f,fs,?_,fillable.reopens found⟩
      rw [FileSystem.openFile,resolved,found]

-- Directories and file in one go, as a log or a new file needs them.
theorem Fillable.opens {fs : FileSystem} {dir : Location} {name : Bytes}
    (fillable : Fillable fs (dir ++ [name])) (taken : Taken (dir ++ [name]))
    (cwd : Option Location) (mode : Nat) : ∃ made f opened,
      fs.makeDirectories cwd (Host.locationPath dir) = .ok made ∧
      made.openFile cwd (Host.locationPath (dir ++ [name])) mode = .ok (f.id,opened) ∧
      Opens (dir ++ [name]) fs opened f := by
  obtain ⟨made,done,fresh,still,stands,same⟩ := fillable.makes taken cwd
  obtain ⟨f,opened,opens,result⟩ := still.openFile taken stands cwd mode
  refine ⟨made,f,opened,done,opens,result.fillable,result.there,?_,?_,?_⟩
  · rw [← same]
    exact result.kept
  · rw [← same,← fresh]
    exact result.made
  · rw [← fresh]
    exact result.older

theorem Fillable.stat {fs : FileSystem} {place : Location} (fillable : Fillable fs place)
    (taken : Taken place) (cwd : Option Location) :
    (∃ f, fs.get? place = some (.file f) ∧
      fs.stat cwd (Host.locationPath place) = .ok (.file f)) ∨
    fs.get? place = none ∧ fs.stat cwd (Host.locationPath place) = .error .noEntry := by
  cases found : fs.get? place with
  | some node =>
    cases node with
    | directory => exact (fillable.spot found).elim
    | file f =>
      refine .inl ⟨f,rfl,?_⟩
      rw [FileSystem.stat,fillable.sound.resolve_present taken found]
  | none =>
    refine .inr ⟨rfl,?_⟩
    have clear (above : Location) (f : File) (way : above <+: [] ++ place) :
        fs.get? above ≠ some (.file f) := by
      by_cases here : above = place
      · rw [here,found]
        simp
      · exact fillable.clear above f way here
    rw [FileSystem.stat,taken.resolve]
    rcases walk_missing taken.named taken.fits (by simpa using found) clear with
      lost | ⟨there,lost⟩
    · rw [lost]
    · rw [lost]

-- An answer that tells whether something is there is about a path that the system takes.
theorem stat_written {fs : FileSystem} {cwd : Option Location} {path : Bytes}
    (told : (∃ node, fs.stat cwd path = .ok node) ∨ fs.stat cwd path = .error .noEntry) :
    path.contains 0 = false ∧ path.length ≤ maxPath := by
  cases written : path.contains 0 with
  | true =>
    have refused : fs.stat cwd path = .error .invalidArgument := by
      simp only [FileSystem.stat,FileSystem.resolve,written,if_true]
    rw [refused] at told
    rcases told with ⟨node,told⟩ | told <;> cases told
  | false =>
    refine ⟨rfl,Nat.not_lt.mp fun long => ?_⟩
    have some_ : path.isEmpty = false := by
      cases path with
      | nil => simp at long
      | cons b rest => rfl
    have refused : fs.stat cwd path = .error .nameTooLong := by
      simp only [FileSystem.stat,FileSystem.resolve,written,some_,long,if_true,Bool.false_eq_true,
        if_false]
    rw [refused] at told
    rcases told with ⟨node,told⟩ | told <;> cases told

-- Directories that can be made lead to a place that can be filled.
theorem Sound.fillable {fs made : FileSystem} {dir : Location} {name : Bytes} (sound : Sound fs)
    (named : ∀ part ∈ dir ++ [name], Path.Name part) (fit : name.length ≤ maxName)
    {cwd : Option Location}
    (makeable : fs.makeDirectories cwd (Host.locationPath dir) = .ok made)
    (told : (∃ f, fs.stat cwd (Host.locationPath (dir ++ [name])) = .ok (.file f)) ∨
      fs.stat cwd (Host.locationPath (dir ++ [name])) = .error .noEntry) :
    Taken (dir ++ [name]) ∧ Fillable fs (dir ++ [name]) := by
  obtain ⟨front,-⟩ := List.forall_mem_append.mp named
  obtain ⟨absolute,-,same⟩ := location_components dir front fs
  have done := makeDirectories_makeAll makeable
  rw [origin,absolute,if_pos rfl,same] at done
  obtain ⟨fits,clear⟩ := makeAll_fits front done
  have answered : (∃ node, fs.stat cwd (Host.locationPath (dir ++ [name])) = .ok node) ∨
      fs.stat cwd (Host.locationPath (dir ++ [name])) = .error .noEntry := by
    rcases told with ⟨f,there⟩ | missing
    · exact .inl ⟨_,there⟩
    · exact .inr missing
  obtain ⟨written,short⟩ := stat_written answered
  have taken : Taken (dir ++ [name]) :=
    ⟨named,List.forall_mem_append.mpr ⟨fits,List.forall_mem_singleton.mpr fit⟩,written,short⟩
  refine ⟨taken,sound,fun above f way strict => ?_,fun found => ?_⟩
  · rcases List.prefix_concat_iff.mp way with rfl | higher
    · exact (strict rfl).elim
    · by_cases top : above = []
      · rw [top]
        simp [get?]
      · exact clear above f higher top
  · have directory : fs.stat cwd (Host.locationPath (dir ++ [name])) = .ok .directory := by
      rw [FileSystem.stat,sound.resolve_present taken found]
    rw [directory] at told
    rcases told with ⟨f,told⟩ | told <;> cases told

end FileSystem

end ScriptLauncher
