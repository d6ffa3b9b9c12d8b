import ScriptLauncher.Proofs.Files

namespace ScriptLauncher

namespace FileSystem

-- A tree in which every identity was given out before: whatever stands anywhere stands in a
-- directory, and no file has an identity that is still to be given.
structure Sound (fs : FileSystem) : Prop where
  nested : ∀ dir name node, fs.get? (dir ++ [name]) = some node → fs.get? dir = some .directory
  known : ∀ place f, fs.get? place = some (.file f) → f.id < fs.fresh

theorem empty_sound : Sound empty := by
  refine ⟨fun dir name node found => ?_,fun place f found => ?_⟩
  · simp [get?,empty] at found
  · cases place with
    | nil => cases found
    | cons name rest => cases found

theorem Sound.above {fs : FileSystem} (sound : Sound fs) {place above : Location} {node : Node}
    (found : fs.get? place = some node) (way : above <+: place) (strict : above ≠ place) :
    fs.get? above = some .directory := by
  obtain ⟨rest,rfl⟩ := way
  induction rest generalizing above with
  | nil => exact (strict (by simp)).elim
  | cons name rest ih =>
    by_cases last : rest = []
    · subst last
      exact sound.nested _ _ _ found
    · have further : fs.get? (above ++ [name]) = some .directory :=
        ih (by simpa using found) (by simpa using last)
      exact sound.nested _ _ _ further

theorem Sound.up {fs : FileSystem} (sound : Sound fs) {dir above : Location}
    (stands : fs.get? dir = some .directory) (way : above <+: dir) :
    fs.get? above = some .directory := by
  by_cases here : above = dir
  · rw [here]
    exact stands
  · exact sound.above stands way here

theorem Sound.below {fs : FileSystem} (sound : Sound fs) {place above : Location}
    (missing : fs.get? above = none) (way : above <+: place) : fs.get? place = none := by
  cases found : fs.get? place with
  | none => rfl
  | some node =>
    by_cases here : above = place
    · rw [← here,missing] at found
      cases found
    · rw [sound.above found way here] at missing
      cases missing

theorem Sound.parent {fs : FileSystem} (sound : Sound fs) {dir : Location}
    (stands : fs.get? dir = some .directory) : fs.get? dir.dropLast = some .directory := by
  rcases List.eq_nil_or_concat dir with rfl | ⟨higher,name,rfl⟩
  · exact stands
  · rw [List.concat_eq_append] at stands ⊢
    rw [List.dropLast_concat]
    exact sound.nested higher name _ stands

theorem get?_erase (fs : FileSystem) (place other : Location) :
    (fs.erase place).get? other = if place <+: other ∧ other ≠ [] then none else fs.get? other := by
  cases other with
  | nil => simp [get?]
  | cons name rest =>
    cases way : place.isPrefixOf (name :: rest) with
    | true =>
      have gone : (fs.entries.filter fun entry => !place.isPrefixOf entry.1).find?
          (·.1 == name :: rest) = none := by
        rw [List.find?_eq_none]
        intro entry kept hit
        have here : entry.1 = name :: rest := by simpa using hit
        have off := (List.mem_filter.mp kept).2
        rw [here,way] at off
        cases off
      have along := List.isPrefixOf_iff_prefix.mp way
      simp [get?,erase,along,gone]
    | false =>
      have passed : (fs.entries.filter fun entry => !place.isPrefixOf entry.1).find?
          (·.1 == name :: rest) = fs.entries.find? (·.1 == name :: rest) := by
        rw [List.find?_filter]
        congr 1
        funext entry
        by_cases hit : entry.1 = name :: rest
        · simp [hit,way]
        · simp [hit]
      have off : ¬ place <+: name :: rest := by
        rw [← List.isPrefixOf_iff_prefix,way]
        simp
      simp [get?,erase,off,passed]

-- What making directories and files keeps: the tree is still sound, and no directory is lost.
structure Keeps (before after : FileSystem) : Prop where
  sound : Sound after
  directories : ∀ place, before.get? place = some .directory → after.get? place = some .directory

theorem Sound.keeps {fs : FileSystem} (sound : Sound fs) : Keeps fs fs := ⟨sound,fun _ => id⟩

theorem Keeps.trans {one two three : FileSystem} (first : Keeps one two) (second : Keeps two three) :
    Keeps one three :=
  ⟨second.sound,fun place stands => second.directories place (first.directories place stands)⟩

theorem get?_add (fs : FileSystem) (dir : Location) (name : Bytes) (node : Node) (fresh : Nat)
    (other : Location) : FileSystem.get? { fs.set (dir ++ [name]) node with fresh } other =
      if other = dir ++ [name] then some node else fs.get? other :=
  get?_set fs (by simp) node other

theorem Sound.add {fs : FileSystem} (sound : Sound fs) {dir : Location} {name : Bytes}
    (stands : fs.get? dir = some .directory) (missing : fs.get? (dir ++ [name]) = none)
    {node : Node} {fresh : Nat} (older : fs.fresh ≤ fresh)
    (known : ∀ f, node = .file f → f.id < fresh) :
    Keeps fs { fs.set (dir ++ [name]) node with fresh } := by
  have exact_ := get?_add fs dir name node fresh
  have directories (place : Location) (there : fs.get? place = some .directory) :
      FileSystem.get? { fs.set (dir ++ [name]) node with fresh } place = some .directory := by
    rw [exact_,if_neg]
    · exact there
    · rintro rfl
      rw [missing] at there
      cases there
  refine ⟨⟨fun inner part other found => ?_,fun place f found => ?_⟩,directories⟩
  · apply directories
    rw [exact_] at found
    split at found
    · rename_i here
      rw [List.append_inj_left' here rfl]
      exact stands
    · exact sound.nested inner part other found
  · rw [exact_] at found
    split at found
    · cases found
      exact known f rfl
    · exact Nat.lt_of_lt_of_le (sound.known place f found) older

-- A node keeps its kind and its identity when a content changes.
theorem modify_kept {fs : FileSystem} {id : Nat} {change : Bytes → Bytes} {place : Location}
    {node : Node} (found : (fs.modify id change).get? place = some node) : ∃ old,
      fs.get? place = some old ∧ old.isDirectory = node.isDirectory ∧
        ∀ f, node = .file f → ∃ g, old = .file g ∧ g.id = f.id := by
  rw [get?_modify] at found
  obtain ⟨old,was,rfl⟩ := Option.map_eq_some_iff.mp found
  refine ⟨old,was,?_,fun f same => ?_⟩
  · cases old <;> rfl
  · cases old with
    | directory => cases same
    | file g =>
      refine ⟨g,rfl,?_⟩
      simp only [touched,Node.file.injEq] at same
      rw [← same]
      split <;> rfl

theorem Sound.modify {fs : FileSystem} (sound : Sound fs) (id : Nat) (change : Bytes → Bytes) :
    Keeps fs (fs.modify id change) := by
  have directories (place : Location) (there : fs.get? place = some .directory) :
      (fs.modify id change).get? place = some .directory := by
    rw [get?_modify,there]
    rfl
  refine ⟨⟨fun dir name node found => ?_,fun place f found => ?_⟩,directories⟩
  · obtain ⟨old,was,-,-⟩ := modify_kept found
    exact directories dir (sound.nested dir name old was)
  · obtain ⟨old,was,-,same⟩ := modify_kept found
    obtain ⟨g,rfl,equal⟩ := same f rfl
    rw [← equal]
    exact sound.known place g was

theorem Sound.erase {fs : FileSystem} (sound : Sound fs) (place : Location) :
    Sound (fs.erase place) := by
  refine ⟨fun dir name node found => ?_,fun other f found => ?_⟩
  · rw [get?_erase] at found ⊢
    split at found
    · cases found
    · rename_i off
      rw [if_neg]
      · exact sound.nested dir name node found
      · rintro ⟨higher,-⟩
        exact off ⟨higher.trans (List.prefix_append _ _),by simp⟩
  · rw [get?_erase] at found
    split at found
    · cases found
    · exact sound.known other f found

theorem Sound.removed {fs : FileSystem} (sound : Sound fs) (cwd : Option Location) (path : Bytes) :
    Sound (fs.removeAll cwd path) ∧ ∀ place node,
      (fs.removeAll cwd path).get? place = some node → fs.get? place = some node := by
  unfold FileSystem.removeAll
  split
  · rename_i there _ _
    refine ⟨sound.erase there,fun place node found => ?_⟩
    have left_ : (fs.erase there).get? place = some node := found
    rw [get?_erase] at left_
    split at left_
    · cases left_
    · exact left_
  · exact ⟨sound,fun _ _ found => found⟩

theorem makeAll_keeps {fs : FileSystem} (sound : Sound fs) {dir : Location}
    (stands : fs.get? dir = some .directory) (parts : List Bytes) :
    Keeps fs (left (fs.makeAll dir parts)) := by
  induction parts generalizing fs dir with
  | nil => exact sound.keeps
  | cons part rest ih =>
    rw [FileSystem.makeAll]
    split
    · exact ih sound stands
    · split
      · exact ih sound (sound.parent stands)
      · split
        · exact sound.keeps
        · split
          · rename_i there
            exact ih sound there
          · exact sound.keeps
          · rename_i missing
            have added : Keeps fs (fs.set (dir ++ [part]) .directory) :=
              sound.add stands missing (Nat.le_refl _) (fun f same => by cases same)
            have there : (fs.set (dir ++ [part]) .directory).get? (dir ++ [part]) =
                some .directory := by
              rw [get?_set fs (by simp),if_pos rfl]
            exact added.trans (ih added.sound there)

-- Where a walk ends: what it brings is what stands there, and where nothing does, a name is missing
-- in a directory.
theorem walk_ends {fs : FileSystem} (sound : Sound fs) {dir place : Location} {parts : List Bytes}
    {node : Option Node} (stands : fs.get? dir = some .directory)
    (reached : fs.walk dir parts = .ok (place,node)) : fs.get? place = node ∧
      (node = none → ∃ parent name, place = parent ++ [name] ∧
        fs.get? parent = some .directory) := by
  induction parts generalizing dir with
  | nil =>
    cases reached
    refine ⟨rfl,fun missing => ?_⟩
    rw [stands] at missing
    cases missing
  | cons part rest ih =>
    rw [FileSystem.walk] at reached
    split at reached
    · exact ih stands reached
    · split at reached
      · exact ih (sound.parent stands) reached
      · split at reached
        · cases reached
        · split at reached
          · rename_i there
            exact ih there reached
          · rename_i file
            split at reached
            · cases reached
              exact ⟨file,fun missing => by cases missing⟩
            · cases reached
          · rename_i missing
            split at reached
            · cases reached
              exact ⟨missing,fun _ => ⟨dir,part,rfl,stands⟩⟩
            · cases reached

-- A working directory, if there is one, is a directory of the tree.
def Standing (fs : FileSystem) (cwd : Option Location) : Prop :=
  ∀ dir, cwd = some dir → fs.get? dir = some .directory

theorem Standing.origin {fs : FileSystem} {cwd : Option Location} (standing : Standing fs cwd)
    (path : Bytes) : fs.get? (origin cwd path) = some .directory := by
  unfold FileSystem.origin
  split
  · rfl
  · cases cwd with
    | none => rfl
    | some dir => exact standing dir rfl

theorem makeDirectories_keeps {fs : FileSystem} (sound : Sound fs) {cwd : Option Location}
    (standing : Standing fs cwd) (path : Bytes) :
    Keeps fs (left (fs.makeDirectories cwd path)) := by
  obtain ⟨parts,-,made⟩ := makeDirectories_left fs cwd path
  rw [made]
  exact makeAll_keeps sound (standing.origin path) parts

theorem openFile_keeps {fs opened : FileSystem} (sound : Sound fs) {cwd : Option Location}
    (standing : Standing fs cwd) {path : Bytes} {mode id : Nat}
    (done : fs.openFile cwd path mode = .ok (id,opened)) : Keeps fs opened := by
  unfold openFile at done
  split at done
  · cases done
  · cases done
  · cases done
    exact sound.keeps
  · rename_i place found
    cases done
    obtain ⟨missing,new⟩ := walk_ends sound (standing.origin path) (resolve_walk found)
    obtain ⟨parent,name,rfl,stands⟩ := new rfl
    exact sound.add stands missing (Nat.le_succ _) fun f same => by
      cases same
      exact Nat.lt_succ_self _

theorem write_keeps {fs written : FileSystem} (sound : Sound fs) {cwd : Option Location}
    (standing : Standing fs cwd) {path data : Bytes} {mode : Nat}
    (done : fs.write cwd path data mode = .ok written) : Keeps fs written := by
  unfold FileSystem.write at done
  cases opening : fs.openFile cwd path mode with
  | error how =>
    rw [opening] at done
    cases done
  | ok result =>
    obtain ⟨id,opened⟩ := result
    rw [opening] at done
    cases done
    have opens := openFile_keeps sound standing opening
    exact opens.trans (opens.sound.modify id _)

end FileSystem

-- A host whose tree is sound and whose working directory is in it. The bare host is one, and so is
-- every host that comes from it.
structure Host.Sound (host : Host) : Prop where
  files : host.files.Sound
  standing : host.files.Standing host.cwd

theorem Host.bare_sound : Host.Sound ⟨.empty,none,[]⟩ :=
  ⟨FileSystem.empty_sound,fun dir here => by cases here⟩

namespace Host.Sound

variable {host : Host}

theorem kept {files : FileSystem} (sound : host.Sound)
    (keeps : FileSystem.Keeps host.files files) : Host.Sound { host with files } :=
  ⟨keeps.sound,fun dir here => keeps.directories dir (sound.standing dir here)⟩

theorem makeDirectory (sound : host.Sound) (path : Bytes) : (host.makeDirectory path).Sound :=
  sound.kept (FileSystem.makeDirectories_keeps sound.files sound.standing path)

theorem put (sound : host.Sound) (path data : Bytes) (mode : Nat) :
    (host.put path data mode).Sound := by
  have prepared := sound.makeDirectory (Path.parent path)
  have spelled : host.put path data mode =
      { host.makeDirectory (Path.parent path) with
        files := ((host.makeDirectory (Path.parent path)).files.write host.cwd path data
          mode).toOption.getD (host.makeDirectory (Path.parent path)).files } := rfl
  rw [spelled]
  cases written : (host.makeDirectory (Path.parent path)).files.write host.cwd path data mode with
  | error how => exact prepared.kept prepared.files.keeps
  | ok files =>
    exact prepared.kept (FileSystem.write_keeps prepared.files prepared.standing written)

theorem remove (sound : host.Sound) (path : Bytes) : (host.remove path).Sound := by
  obtain ⟨removed,was⟩ := sound.files.removed host.cwd path
  refine ⟨removed,fun dir here => ?_⟩
  obtain ⟨inside,left_⟩ := Option.filter_eq_some_iff.mp here
  obtain ⟨node,found⟩ := Option.isSome_iff_exists.mp left_
  have same := was dir node found
  rw [sound.standing dir inside] at same
  rw [show (host.remove path).files.get? dir = some node from found,← same]

theorem reached (sound : host.Sound) {path : Bytes} {place : Location} {node : Option Node}
    (leads : host.files.resolve host.cwd path = .ok (place,node)) : host.files.get? place = node :=
  (FileSystem.walk_ends sound.files (sound.standing.origin path)
    (FileSystem.resolve_walk leads)).1

theorem changeDirectory (sound : host.Sound) (path : Bytes) : (host.changeDirectory path).Sound := by
  unfold Host.changeDirectory
  split
  · rename_i place leads
    refine ⟨sound.files,fun dir here => ?_⟩
    cases here
    exact sound.reached leads
  · exact sound

end Host.Sound

end ScriptLauncher
