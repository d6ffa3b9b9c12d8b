import ScriptLauncher.Proofs.Soundness

namespace ScriptLauncher

namespace FileSystem

theorem Paves.file {target place : Location} {before after : FileSystem}
    (paves : Paves target before after) {f : File} (found : after.get? place = some (.file f)) :
    before.get? place = some (.file f) := by
  rcases paves place with same | ⟨-,-,directory⟩
  · exact same ▸ found
  · rw [directory] at found
    cases found

-- One file put at a place, and nothing else.
def Puts (place : Location) (f : File) (before after : FileSystem) : Prop :=
  ∀ other, after.get? other = if other = place then some (.file f) else before.get? other

-- Changes one after the other are one change.
theorem modify_modify (fs : FileSystem) (id : Nat) (first second : Bytes → Bytes) :
    (fs.modify id first).modify id second = fs.modify id (second ∘ first) := by
  simp only [FileSystem.modify,List.map_map]
  congr 2
  funext entry
  obtain ⟨place,node⟩ := entry
  cases node with
  | directory => rfl
  | file f => by_cases own : f.id = id <;> simp [own]

theorem walk_modify (fs : FileSystem) (id : Nat) (change : Bytes → Bytes) (dir : Location)
    (parts : List Bytes) : (fs.modify id change).walk dir parts =
      (fs.walk dir parts).map fun found => (found.1,found.2.map (touched id change)) := by
  induction parts generalizing dir with
  | nil => simp [FileSystem.walk,get?_modify,Except.map]
  | cons part rest ih =>
    simp only [FileSystem.walk,get?_modify]
    split
    · exact ih dir
    · split
      · exact ih _
      · split
        · rfl
        · cases found : fs.get? (dir ++ [part]) with
          | none =>
            simp only [Option.map_none]
            split <;> rfl
          | some node =>
            cases node with
            | directory => exact ih _
            | file f =>
              simp only [Option.map_some,touched]
              split <;> rfl

-- What the system says about a path before it looks at files is the same for all trees.
theorem resolve_taken {fs : FileSystem} {cwd : Option Location} {path : Bytes}
    {result : Location × Option Node} (found : fs.resolve cwd path = .ok result)
    (other : FileSystem) :
    other.resolve cwd path = other.walk (origin cwd path) (Path.components path) := by
  unfold resolve at found ⊢
  unfold origin
  split at found
  · cases found
  · rename_i written
    rw [if_neg written]
    split at found
    · cases found
    · rename_i some_
      rw [if_neg some_]
      split at found
      · cases found
      · rename_i short
        rw [if_neg short]
        split at found
        · rename_i absolute
          simp [absolute]
        · rename_i relative
          cases cwd with
          | none => cases found
          | some dir => simp [relative]

theorem stat_modify {fs : FileSystem} {cwd : Option Location} {path : Bytes} {f : File}
    (told : fs.stat cwd path = .ok (.file f)) (change : Bytes → Bytes) :
    (fs.modify f.id change).stat cwd path = .ok (.file { f with data := change f.data }) := by
  unfold FileSystem.stat at told
  split at told
  · rename_i place node resolved
    cases told
    have walked := resolve_walk resolved
    rw [FileSystem.stat,resolve_taken resolved,walk_modify,walked]
    simp [Except.map,touched]
  · cases told
  · cases told

-- A walk along names sees only what stands on its way.
theorem walk_congr {one two : FileSystem} {names : List Bytes}
    (named : ∀ name ∈ names, Path.Name name) {base : Location}
    (same : ∀ above, above <+: names → one.get? (base ++ above) = two.get? (base ++ above)) :
    one.walk base names = two.walk base names := by
  induction names generalizing base with
  | nil =>
    have here := same [] (List.prefix_refl _)
    rw [List.append_nil] at here
    rw [FileSystem.walk,FileSystem.walk,here]
  | cons name rest ih =>
    obtain ⟨first,others⟩ := List.forall_mem_cons.mp named
    have next := same [name] (by simp)
    have further (above : Location) (way : above <+: rest) :
        one.get? (base ++ [name] ++ above) = two.get? (base ++ [name] ++ above) := by
      have there := same (name :: above) (by simpa using way)
      simpa using there
    rw [walk_name first,walk_name first,next,ih others further]

-- A walk that ended at a missing name ends at the file that is put there.
theorem walk_puts {before after : FileSystem} {names : List Bytes}
    (named : ∀ name ∈ names, Path.Name name) {base place : Location}
    (missing : before.walk base names = .ok (place,none)) {f : File}
    (puts : Puts place f before after) : after.walk base names = .ok (place,some (.file f)) := by
  obtain ⟨-,free⟩ := walk_found named missing
  induction names generalizing base with
  | nil =>
    simp only [FileSystem.walk,Except.ok.injEq,Prod.mk.injEq] at missing ⊢
    rw [missing.1,puts,if_pos rfl]
    exact ⟨rfl,rfl⟩
  | cons name rest ih =>
    obtain ⟨first,others⟩ := List.forall_mem_cons.mp named
    rw [walk_name first] at missing ⊢
    rw [puts]
    split at missing
    · cases missing
    · rename_i short
      rw [if_neg short]
      split at missing
      · rename_i directory
        have other : base ++ [name] ≠ place := by
          rintro rfl
          rw [directory] at free
          cases free
        rw [if_neg other,directory]
        exact ih others missing
      · split at missing <;> cases missing
      · split at missing
        · rename_i ended
          cases missing
          rw [if_pos rfl,names_ended others ended]
          rfl
        · cases missing

-- Two places of one file: the same place, or links to it.
def SameFile (fs : FileSystem) (one other : Location) : Prop :=
  one = other ∨ ∃ f g, fs.get? one = some (.file f) ∧ fs.get? other = some (.file g) ∧ f.id = g.id

-- Apart from one file nothing differs, but that directories were made on the way to it.
def Spares (target : Location) (before after : FileSystem) : Prop :=
  ∀ place, ¬before.SameFile place target → after.get? place = before.get? place ∨
    before.get? place = none ∧ place <+: target ∧ after.get? place = some .directory

-- A change of the file that stands at a place is felt only where that file stands.
theorem Spares.modify {target : Location} {before after : FileSystem} {id : Nat}
    (spares : Spares target before after)
    (alone : ∀ place f, after.get? place = some (.file f) → f.id = id → before.SameFile place target)
    (change : Bytes → Bytes) : Spares target before (after.modify id change) := by
  intro place different
  have untouched : (after.modify id change).get? place = after.get? place := by
    rw [get?_modify]
    cases found : after.get? place with
    | none => rfl
    | some node =>
      cases node with
      | directory => rfl
      | file f =>
        have foreign : f.id ≠ id := fun own => different (alone place f found own)
        simp [touched,foreign]
  rw [untouched]
  exact spares place different

theorem stat_found {fs : FileSystem} {cwd : Option Location} {path : Bytes} {base : Location}
    {names : List Bytes} (descends : Descends cwd path base names) {node : Node}
    (told : fs.stat cwd path = .ok node) : fs.get? (base ++ names) = some node := by
  unfold FileSystem.stat at told
  split at told
  · rename_i place found resolved
    cases told
    have walked := resolve_walk resolved
    rw [descends.walk] at walked
    obtain ⟨rfl,there⟩ := walk_found descends.named walked
    exact there.symm
  · cases told
  · cases told

end FileSystem

namespace Log

-- The log once it is open: it holds what could be read from it before, nothing else has been
-- touched, and its identity stands for no other file.
structure Opened (stateDir : Bytes) (host : Host) (files : FileSystem) (f : File) : Prop where
  told : files.stat host.cwd (path stateDir) = .ok (.file f)
  old : f.data = (host.read (path stateDir)).toOption.getD []
  spared : FileSystem.Spares (host.place (path stateDir)) host.files files
  alone : ∀ place g, files.get? place = some (.file g) → g.id = f.id →
    host.files.SameFile place (host.place (path stateDir))

section

variable {stateDir : Bytes} {host : Host} {made : FileSystem} {base : Location}
  {names : List Bytes} {last : Bytes}

-- The log's own place is not on the way to its directory.
theorem paved_target (paves : FileSystem.Paves (base ++ names) host.files made) :
    made.get? (base ++ (names ++ [last])) = host.files.get? (base ++ (names ++ [last])) := by
  rcases paves (base ++ (names ++ [last])) with same | ⟨-,way,-⟩
  · exact same
  · have longer := way.length_le
    simp only [List.length_append,List.length_singleton] at longer
    omega

theorem paved_spares (paves : FileSystem.Paves (base ++ names) host.files made) :
    FileSystem.Spares (base ++ (names ++ [last])) host.files made := by
  intro place _
  rcases paves place with same | ⟨missing,way,directory⟩
  · exact .inl same
  · exact .inr ⟨missing,way.trans (by simp),directory⟩

theorem opened_existing (sound : host.files.Sound)
    (descends : FileSystem.Descends host.cwd (path stateDir) base (names ++ [last]))
    (paves : FileSystem.Paves (base ++ names) host.files made) {place : Location} {f : File}
    (resolved : made.resolve host.cwd (path stateDir) = .ok (place,some (.file f))) :
    Opened stateDir host made f := by
  have told : made.stat host.cwd (path stateDir) = .ok (.file f) := by
    rw [FileSystem.stat,resolved]
  have there := FileSystem.stat_found descends told
  have was := (paved_target paves).symm.trans there
  -- The file was there before, so nothing above it was missing, and a walk along it is the same.
  have same (above : Location) (way : above <+: names ++ [last]) :
      host.files.get? (base ++ above) = made.get? (base ++ above) := by
    rcases paves (base ++ above) with same | ⟨missing,-,-⟩
    · exact same.symm
    · have gone := sound.below missing ((List.prefix_append_right_inj base).mpr way)
      rw [was] at gone
      cases gone
  have before : host.files.resolve host.cwd (path stateDir) = .ok (place,some (.file f)) := by
    rw [FileSystem.resolve_taken resolved,descends.walk,
      FileSystem.walk_congr descends.named same,← descends.walk]
    exact FileSystem.resolve_walk resolved
  refine ⟨told,?_,?_,?_⟩
  · simp [Host.read,Host.stat,FileSystem.stat,before,Except.toOption]
  · rw [Host.place,descends.place]
    exact paved_spares paves
  · intro place g found own
    rw [Host.place,descends.place]
    exact .inr ⟨g,f,paves.file found,was,own⟩

theorem opened_new
    (descends : FileSystem.Descends host.cwd (path stateDir) base (names ++ [last]))
    (paves : FileSystem.Paves (base ++ names) host.files made) {place : Location}
    (resolved : made.resolve host.cwd (path stateDir) = .ok (place,none)) {files : FileSystem}
    {f : File} (puts : FileSystem.Puts place f made files) (empty : f.data = [])
    (new : ∀ other g, made.get? other = some (.file g) → g.id ≠ f.id) :
    Opened stateDir host files f := by
  have walked := FileSystem.resolve_walk resolved
  rw [descends.walk] at walked
  obtain ⟨rfl,free⟩ := FileSystem.walk_found descends.named walked
  have missing := (paved_target paves).symm.trans free.symm
  have filled := FileSystem.walk_puts descends.named walked puts
  refine ⟨?_,?_,?_,?_⟩
  · rw [FileSystem.stat,FileSystem.resolve_taken resolved,descends.walk,filled]
  · have unread : (host.read (path stateDir)).toOption = none := by
      unfold Host.read
      split
      · rename_i g told
        have there := FileSystem.stat_found descends told
        rw [missing] at there
        cases there
      · rfl
      · rfl
    rw [unread,empty]
    rfl
  · intro other different
    rw [Host.place,descends.place] at different ⊢
    rw [puts,if_neg fun same => different (.inl same)]
    exact paved_spares paves other different
  · intro other g found own
    rw [Host.place,descends.place]
    rw [puts] at found
    split at found
    · rename_i here
      exact .inl here
    · exact (new other g found own).elim

theorem opening_opened (sound : host.files.Sound)
    (descends : FileSystem.Descends host.cwd (path stateDir) base (names ++ [last]))
    (paves : FileSystem.Paves (base ++ names) host.files made)
    (fresh : made.fresh = host.files.fresh) {id : Nat} {files : FileSystem}
    (opening : made.openFile host.cwd (path stateDir) 0o640 = .ok (id,files)) :
    ∃ f, f.id = id ∧ Opened stateDir host files f := by
  unfold FileSystem.openFile at opening
  split at opening
  · cases opening
  · cases opening
  · rename_i place f resolved
    cases opening
    exact ⟨f,rfl,opened_existing sound descends paves resolved⟩
  · rename_i place resolved
    cases opening
    have walked := FileSystem.resolve_walk resolved
    rw [descends.walk] at walked
    obtain ⟨here,-⟩ := FileSystem.walk_found descends.named walked
    have puts : FileSystem.Puts place ⟨made.fresh,0o640,[]⟩ made _ :=
      FileSystem.get?_set made (by simp [here]) _
    refine ⟨_,rfl,opened_new descends paves resolved puts rfl fun other g found => ?_⟩
    have older := sound.known other g (paves.file found)
    rw [← fresh] at older
    exact Nat.ne_of_lt older

end

-- The log's directories can be made, and then the log itself can be opened, with this result.
def Openable (stateDir : Bytes) (host : Host) (id : Nat) (files : FileSystem) : Prop :=
  ∃ made, host.files.makeDirectories host.cwd (Path.parent (path stateDir)) = .ok made ∧
    made.openFile host.cwd (path stateDir) 0o640 = .ok (id,files)

theorem Openable.opened {stateDir : Bytes} {host : Host} {id : Nat} {files : FileSystem}
    (openable : Openable stateDir host id files) (sound : host.files.Sound) :
    ∃ f, f.id = id ∧ Opened stateDir host files f := by
  obtain ⟨made,making,opening⟩ := openable
  obtain ⟨base,inner,whole,front⟩ := path_descends host.cwd stateDir
  obtain ⟨paves,fresh⟩ := FileSystem.makeDirectories_paves host.files front
  rw [making] at paves fresh
  exact opening_opened sound whole paves fresh opening

-- The entries that a level lets through, and their lines one after the other.
def written (level : Level) (entries : List Entry) : List Entry :=
  entries.filter fun entry => level.severity ≤ entry.level.severity

def lines (time : Moment) (entries : List Entry) : Bytes := entries.flatMap (render time)

-- What can be read from a log; a missing one is as good as empty.
def contents (stateDir : Bytes) (host : Host) : Bytes :=
  (host.read (path stateDir)).toOption.getD []

-- A log that had these lines added to it, and nothing else that differs.
structure Appends (stateDir added : Bytes) (before after : Host) : Prop where
  content : after.read (path stateDir) = .ok (contents stateDir before ++ added)
  spared : FileSystem.Spares (before.place (path stateDir)) before.files after.files

-- A host with something added to the file of an identity.
def extended (host : Host) (files : FileSystem) (id : Nat) (added : Bytes) : Host :=
  { host with files := files.modify id (· ++ added) }

theorem Opened.appends {stateDir : Bytes} {host : Host} {files : FileSystem} {f : File}
    (opened : Opened stateDir host files f) (added : Bytes) :
    Appends stateDir added host (extended host files f.id added) := by
  refine ⟨?_,opened.spared.modify opened.alone _⟩
  have told := FileSystem.stat_modify opened.told (· ++ added)
  simp only [extended,Host.read,Host.stat,told,opened.old,contents]

namespace Logger

def recordAll (logger : Logger) (time : Moment) (entries : List Entry) (host : Host) :
    Logger × Host :=
  entries.foldl (fun held entry => held.1.record time entry held.2) (logger,host)

theorem recordAll_append (logger : Logger) (time : Moment) (before after : List Entry) (host : Host) :
    logger.recordAll time (before ++ after) host =
      (logger.recordAll time before host).1.recordAll time after
        (logger.recordAll time before host).2 :=
  List.foldl_append

theorem admits_exact {logger : Logger} (on : logger.stateDir ≠ []) (level : Level) :
    logger.admits level = decide (logger.level.severity ≤ level.severity) := by
  simp [admits,on]

-- What goes through an open file comes together there.
theorem recordAll_held (logger : Logger) (on : logger.stateDir ≠ []) {id : Nat}
    (held : logger.handle = some id) (time : Moment) (entries : List Entry) (host : Host)
    (files : FileSystem) (added : Bytes) :
    logger.recordAll time entries (extended host files id added) =
      (logger,extended host files id (added ++ lines time (written logger.level entries))) := by
  induction entries generalizing added with
  | nil => simp [recordAll,lines,written]
  | cons entry rest ih =>
    rw [recordAll,List.foldl_cons,← recordAll]
    by_cases loud : logger.level.severity ≤ entry.level.severity
    · have recorded : logger.record time entry (extended host files id added) =
          (logger,extended host files id (added ++ render time entry)) := by
        have joined : (· ++ render time entry) ∘ (· ++ added) =
            fun data : Bytes => data ++ (added ++ render time entry) := by
          funext data
          simp
        simp only [record,admits_exact on,loud,decide_true,if_true,ensureFile,held,extended,
          FileSystem.modify_modify,joined]
        rw [← held]
      rw [recorded,ih]
      simp [lines,written,loud]
    · have recorded : logger.record time entry (extended host files id added) =
          (logger,extended host files id added) := by
        simp [record,admits_exact on,loud]
      rw [recorded,ih]
      simp [written,loud]

-- The first entry that is let through opens the log; without one nothing is touched.
theorem recordAll_closed {logger : Logger} (on : logger.stateDir ≠ [])
    (closed : logger.handle = none) {host : Host} {id : Nat} {files : FileSystem}
    (openable : Openable logger.stateDir host id files) (time : Moment) (entries : List Entry) :
    (logger.recordAll time entries host).2 = if written logger.level entries = [] then host
      else extended host files id (lines time (written logger.level entries)) := by
  induction entries with
  | nil => rfl
  | cons entry rest ih =>
    rw [recordAll,List.foldl_cons,← recordAll]
    by_cases loud : logger.level.severity ≤ entry.level.severity
    · obtain ⟨made,making,opening⟩ := openable
      have recorded : logger.record time entry host =
          ({ logger with handle := some id },extended host files id (render time entry)) := by
        simp only [record,admits_exact on,loud,decide_true,if_true,ensureFile,closed,making,
          opening,Except.map]
        rfl
      have later := recordAll_held { logger with handle := some id } on rfl time rest host files
        (render time entry)
      rw [recorded,later]
      simp [written,loud,lines]
    · have recorded : logger.record time entry host = (logger,host) := by
        simp [record,admits_exact on,loud]
      have passed : written logger.level (entry :: rest) = written logger.level rest := by
        simp [written,loud]
      rw [recorded,ih,passed]

theorem recordAll_contents {logger : Logger} (on : logger.stateDir ≠ [])
    (closed : logger.handle = none) {host : Host} (sound : host.files.Sound) {id : Nat}
    {files : FileSystem} (openable : Openable logger.stateDir host id files) (time : Moment)
    (entries : List Entry) :
    contents logger.stateDir (logger.recordAll time entries host).2 =
      contents logger.stateDir host ++ lines time (written logger.level entries) := by
  rw [recordAll_closed on closed openable]
  split
  · rename_i none_
    simp [none_,lines]
  · obtain ⟨f,rfl,opened⟩ := openable.opened sound
    have read := (opened.appends (lines time (written logger.level entries))).content
    simp only [contents,read]
    rfl

end Logger

end Log

end ScriptLauncher
