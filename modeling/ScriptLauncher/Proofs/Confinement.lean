import ScriptLauncher.Proofs.Appending
import ScriptLauncher.Proofs.Residue

namespace ScriptLauncher

namespace Host

-- A path that can be read as before whatever becomes of the file at another one and of the
-- directories on the way to it.
def Beside (host : Host) (log path : Bytes) : Prop :=
  ∀ files, FileSystem.Spares (host.place log) host.files files →
    Host.read { host with files } path = host.read path

section

variable {host : Host} {log path : Bytes} {base : Location} {names : List Bytes}

-- A file beside another one: not the same file, and not below it.
theorem Beside.found (sound : host.files.Sound)
    (descends : FileSystem.Descends host.cwd path base names) {f : File}
    (there : host.stat path = .ok (.file f)) (off : ¬ host.place log <+: host.place path)
    (different : ¬ host.files.SameFile (host.place path) (host.place log)) :
    host.Beside log path := by
  intro files spares
  have stands := FileSystem.stat_found descends there
  have ends : host.place path = base ++ names := descends.place
  rw [ends] at off different
  -- All that the walk sees was there before, and none of it is the other file.
  have same (above : Location) (way : above <+: names) :
      files.get? (base ++ above) = host.files.get? (base ++ above) := by
    have along : base ++ above <+: base ++ names := (List.prefix_append_right_inj base).mpr way
    have seen : ∃ node, host.files.get? (base ++ above) = some node ∧
        ¬ host.files.SameFile (base ++ above) (host.place log) := by
      by_cases last : base ++ above = base ++ names
      · rw [last]
        exact ⟨_,stands,different⟩
      · have directory := sound.above stands along last
        refine ⟨_,directory,?_⟩
        rintro (here | ⟨g,_,file,-,-⟩)
        · exact off (here ▸ along)
        · rw [directory] at file
          cases file
    obtain ⟨node,before,other⟩ := seen
    rcases spares _ other with kept | ⟨missing,-,-⟩
    · exact kept
    · rw [before] at missing
      cases missing
  have walked : files.walk base names = host.files.walk base names :=
    FileSystem.walk_congr descends.named same
  have told : files.stat host.cwd path = host.files.stat host.cwd path := by
    cases resolved : host.files.resolve host.cwd path with
    | error how =>
      rw [Host.stat,FileSystem.stat,resolved] at there
      cases there
    | ok result =>
      rw [FileSystem.stat,FileSystem.stat,FileSystem.resolve_taken resolved,
        FileSystem.resolve_taken resolved,descends.walk,descends.walk,walked]
  simp only [Host.read,Host.stat,told]

end

end Host

namespace Log

-- What a logger has done to a host: the log apart, only directories on the way to it are new, and the
-- open file stands nowhere else.
structure Confined (stateDir : Bytes) (before : Host) (logger : Logger) (now : Host) : Prop where
  dir : logger.stateDir = stateDir
  off : stateDir = [] → now = before
  cwd : now.cwd = before.cwd
  vars : now.vars = before.vars
  spared : FileSystem.Spares (before.place (path stateDir)) before.files now.files
  paved : logger.handle = none →
    FileSystem.Paves (before.place (path stateDir)).dropLast before.files now.files ∧
      now.files.fresh = before.files.fresh
  alone : ∀ id, logger.handle = some id → ∀ place f, now.files.get? place = some (.file f) →
    f.id = id → before.files.SameFile place (before.place (path stateDir))

theorem confined_start {logger : Logger} (closed : logger.handle = none) (host : Host) :
    Confined logger.stateDir host logger host where
  dir := rfl
  off _ := rfl
  cwd := rfl
  vars := rfl
  spared _ _ := .inl rfl
  paved _ := ⟨fun _ => .inl rfl,rfl⟩
  alone id held := by
    rw [closed] at held
    cases held

section

variable {stateDir : Bytes} {before now : Host} {logger : Logger}

theorem Confined.read (confined : Confined stateDir before logger now) {path : Bytes}
    (beside : stateDir ≠ [] → before.Beside (Log.path stateDir) path) :
    now.read path = before.read path := by
  by_cases off : stateDir = []
  · rw [confined.off off]
  · have same : now = { before with files := now.files } := by
      rw [← confined.cwd,← confined.vars]
    rw [same]
    exact beside off now.files confined.spared

-- Adding to the open file.
theorem Confined.added (confined : Confined stateDir before logger now) (on : stateDir ≠ [])
    {id : Nat} (held : logger.handle = some id) (change : Bytes → Bytes) :
    Confined stateDir before logger { now with files := now.files.modify id change } where
  dir := confined.dir
  off none_ := (on none_).elim
  cwd := confined.cwd
  vars := confined.vars
  spared := confined.spared.modify (fun place f found own =>
    confined.alone id held place f found own) change
  paved closed := by
    rw [held] at closed
    cases closed
  alone other same place f found own := by
    obtain ⟨old,was,-,identity⟩ := FileSystem.modify_kept found
    obtain ⟨g,rfl,equal⟩ := identity f rfl
    exact confined.alone other same place g was (equal.trans own)

-- Making the directories of the log, whether or not all of them can be made.
theorem Confined.pave (confined : Confined stateDir before logger now)
    (closed : logger.handle = none) :
    let made := FileSystem.left
      (now.files.makeDirectories now.cwd (Path.parent (Log.path stateDir)))
    FileSystem.Paves (before.place (Log.path stateDir)).dropLast before.files made ∧
      made.fresh = before.files.fresh := by
  obtain ⟨base,inner,whole,front⟩ := path_descends before.cwd stateDir
  obtain ⟨paves,fresh⟩ := confined.paved closed
  have dir : (before.place (Log.path stateDir)).dropLast = base ++ (inner ++ [text "logs"]) := by
    rw [Host.place,whole.place,← List.append_assoc,List.dropLast_concat]
  obtain ⟨further,kept⟩ := FileSystem.makeDirectories_paves now.files front
  rw [confined.cwd]
  rw [dir] at paves ⊢
  exact ⟨paves.trans further,kept.trans fresh⟩

theorem Confined.made (confined : Confined stateDir before logger now) (on : stateDir ≠ [])
    (closed : logger.handle = none) :
    Confined stateDir before logger { now with
      files := FileSystem.left
        (now.files.makeDirectories now.cwd (Path.parent (Log.path stateDir))) } where
  dir := confined.dir
  off none_ := (on none_).elim
  cwd := confined.cwd
  vars := confined.vars
  spared place _ := by
    rcases (confined.pave closed).1 place with same | ⟨missing,way,directory⟩
    · exact .inl same
    · exact .inr ⟨missing,way.trans (List.dropLast_prefix _),directory⟩
  paved _ := confined.pave closed
  alone id held := by
    rw [closed] at held
    cases held

-- Opening the log for the first time.
theorem Confined.opened (sound : before.files.Sound) (confined : Confined stateDir before logger now)
    (on : stateDir ≠ []) (closed : logger.handle = none) {made : FileSystem}
    (making : now.files.makeDirectories now.cwd (Path.parent (Log.path stateDir)) = .ok made)
    {id : Nat} {files : FileSystem}
    (opening : made.openFile now.cwd (Log.path stateDir) 0o640 = .ok (id,files)) :
    Confined stateDir before { logger with handle := some id } { now with files } := by
  obtain ⟨base,inner,whole,-⟩ := path_descends before.cwd stateDir
  obtain ⟨paves,fresh⟩ := confined.pave closed
  rw [making] at paves fresh
  have dir : (before.place (Log.path stateDir)).dropLast = base ++ (inner ++ [text "logs"]) := by
    rw [Host.place,whole.place,← List.append_assoc,List.dropLast_concat]
  rw [dir] at paves
  rw [confined.cwd] at opening
  obtain ⟨f,rfl,opened⟩ := opening_opened sound whole paves fresh opening
  refine ⟨confined.dir,fun none_ => (on none_).elim,confined.cwd,confined.vars,opened.spared,?_,?_⟩
  · intro open_
    cases open_
  · intro other same place g found own
    cases same
    exact opened.alone place g found own

-- One entry, whatever becomes of it.
theorem record_confined (sound : before.files.Sound)
    (confined : Confined stateDir before logger now) (time : Moment) (entry : Entry) :
    Confined stateDir before (logger.record time entry now).1 (logger.record time entry now).2 := by
  obtain rfl := confined.dir
  unfold Logger.record
  split
  · rename_i admitted
    have on : logger.stateDir ≠ [] := by
      intro off
      simp [Logger.admits,off] at admitted
    cases handle : logger.handle with
    | some id =>
      simp only [Logger.ensureFile,handle]
      rw [← handle]
      exact confined.added on handle _
    | none =>
      simp only [Logger.ensureFile,Logger.prepared,handle]
      have prepared := confined.made on handle
      cases making : now.files.makeDirectories now.cwd
          (Path.parent (Log.path logger.stateDir)) with
      | error stopped =>
        rw [making] at prepared
        exact prepared
      | ok made =>
        rw [making] at prepared
        cases opening : made.openFile now.cwd (Log.path logger.stateDir) 0o640 with
        | error how =>
          simp only [opening,Except.map]
          exact prepared
        | ok result =>
          simp only [opening,Except.map]
          exact (confined.opened sound on handle making opening).added on rfl _
  · exact confined

end

end Log

-- A machine on which only the log has been at work since a run began on a host.
def Machine.Confined (host : Host) (m : Machine) : Prop :=
  Log.Confined (Log.defaultStateDir host) host m.logger m.host

namespace Program
open Launch

section

variable {host : Host} (sound : host.files.Sound) (setup : Setup) (options : Options)
  (workDir : Bytes)

include sound

theorem started_confined : Machine.Confined host (started setup options workDir host) := by
  have closed : (logger setup options workDir host).handle = none := rfl
  exact Log.record_confined sound (Log.confined_start closed host) setup.clock (versionEntry setup)

theorem located_confined (request : Request) (settings : Settings) :
    Machine.Confined host (located (around setup options workDir host) request
      (started setup options workDir host) settings).2.state := by
  have account := account_located (around setup options workDir host) request
    (started setup options workDir host) settings
  exact account.keeps (Machine.Confined host)
    (fun entry m confined => Log.record_confined sound confined setup.clock entry)
    (started_confined sound setup options workDir)

end

end Program

end ScriptLauncher
