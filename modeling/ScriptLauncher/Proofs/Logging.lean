import ScriptLauncher.Proofs.Locations

namespace ScriptLauncher.Log

-- Where the log of a state directory is, whatever the working directory.
def location (stateDir : Bytes) : Location := FileSystem.place none (path stateDir)

-- An absolute state directory: the log's directory and the log's own place in it.
structure Placed (stateDir : Bytes) (dir : Location) : Prop where
  place : location stateDir = dir ++ [text "orion.log"]
  named : ∀ name ∈ location stateDir, Path.Name name
  spelled : path stateDir = Host.locationPath (location stateDir)
  parent : Path.parent (path stateDir) = Host.locationPath dir

theorem placed_exists {stateDir : Bytes} (absolute : Path.isAbsolute stateDir = true) :
    ∃ dir, Placed stateDir dir := by
  obtain ⟨climbs,inner,settled⟩ := Path.reduce_settled true stateDir
  have fronted := settled.append (List.forall_mem_singleton.mpr logs_name)
  have whole := fronted.append (List.forall_mem_singleton.mpr log_name)
  have names : ∀ name ∈ [text "logs",text "orion.log"], Path.Name name :=
    List.forall_mem_cons.mpr ⟨logs_name,List.forall_mem_singleton.mpr log_name⟩
  have written : path stateDir = Path.render true
      (Path.reduce true (Path.components stateDir) ++ [text "logs"] ++ [text "orion.log"]) := by
    rw [path,Path.join_names stateDir (by simp) names,absolute,List.append_assoc]
    rfl
  have straight : climbs = 0 := settled.bounded rfl
  have shape := whole.shape
  rw [straight,List.replicate_zero,List.nil_append] at shape
  have descends := FileSystem.settled_descends whole (by simp) none
  rw [← written,straight] at descends
  have place : location stateDir = inner ++ [text "logs"] ++ [text "orion.log"] := descends.place
  refine ⟨inner ++ [text "logs"],place,place ▸ descends.named,?_,?_⟩
  · rw [written,shape,place]
    rfl
  · have front := fronted.shape
    rw [straight,List.replicate_zero,List.nil_append] at front
    rw [written,fronted.parent (by simp) log_name,front]
    rfl

structure Usable (stateDir : Bytes) (dir : Location) : Prop extends Placed stateDir dir where
  some_ : stateDir ≠ []
  taken : FileSystem.Taken (location stateDir)

-- A logger at work: what it holds, what its clock shows, and the host that it shares with others.
structure World where
  logger : Logger
  clock : Moment
  host : Host

-- What happens in between is done by others: they turn the clock, remove the log or, `depth` names
-- below the root, a directory above it, or give the log another content.
inductive Step where
  | entry (entry : Entry)
  | close
  | clock (time : Moment)
  | renew (level : Level)
  | remove (depth : Nat)
  | rewrite (data : Bytes) (mode : Nat)

namespace World

def step (w : World) : Step → World
  | .entry entry =>
    let (logger,host) := w.logger.record w.clock entry w.host
    { w with logger,host }
  | .close => { w with logger := w.logger.close }
  | .clock time => { w with clock := time }
  | .renew level => { w with logger := { stateDir := w.logger.stateDir,level } }
  | .remove depth =>
    { w with host := w.host.remove (Host.locationPath ((location w.logger.stateDir).take depth)) }
  | .rewrite data mode => { w with host := w.host.put (path w.logger.stateDir) data mode }

def run (w : World) (steps : List Step) : World := steps.foldl step w

end World

-- A logger has no file open, or the file that stands at its path, or one that is no longer there.
inductive Attachment where
  | closed
  | attached
  | detached
  deriving DecidableEq

-- All that counts about a logger, without identities, directories or paths.
structure Machine where
  level : Level
  clock : Moment
  handle : Attachment
  -- None while there is no log.
  content : Option Bytes
  deriving DecidableEq

namespace Machine

def write (m : Machine) (line : Bytes) : Machine :=
  match m.handle with
  | .attached => { m with content := m.content.map (· ++ line) }
  | .closed => { m with handle := .attached,content := some (m.content.getD [] ++ line) }
  | .detached => m

def step (m : Machine) : Step → Machine
  | .entry entry =>
    if m.level.severity ≤ entry.level.severity then m.write (render m.clock entry) else m
  | .close => { m with handle := .closed }
  | .clock time => { m with clock := time }
  | .renew level => { m with level,handle := .closed }
  | .remove _ =>
    { m with handle := if m.handle = .attached then .detached else m.handle,content := none }
  | .rewrite data _ => { m with content := some data }

def run (m : Machine) (steps : List Step) : Machine := steps.foldl step m

end Machine

def attachment : Option Nat → Option File → Attachment
  | none,_ => .closed
  | some _,none => .detached
  | some id,some f => if f.id = id then .attached else .detached

namespace World

-- The file that stands at the log's path.
def file (w : World) : Option File :=
  match w.host.stat (path w.logger.stateDir) with
  | .ok (.file f) => some f
  | _ => none

def view (w : World) : Machine where
  level := w.logger.level
  clock := w.clock
  handle := attachment w.logger.handle w.file
  content := (w.host.read (path w.logger.stateDir)).toOption

theorem step_quiet {w : World} {entry : Entry}
    (quiet : entry.level.severity < w.logger.level.severity) : w.step (.entry entry) = w := by
  have unheard : ¬ w.logger.level.severity ≤ entry.level.severity := Int.not_le.mpr quiet
  simp [step,Logger.record,Logger.admits,unheard]

theorem content_exact (w : World) :
    (w.host.read (path w.logger.stateDir)).toOption = w.file.map File.data := by
  unfold Host.read file
  cases w.host.stat (path w.logger.stateDir) with
  | error how => rfl
  | ok node => cases node <;> rfl

-- The invariant: the log can be written where it belongs, and a file that the logger holds open was
-- given its identity before, so no file that is yet to be made can be taken for it.
structure Valid (stateDir : Bytes) (w : World) : Prop where
  same : w.logger.stateDir = stateDir
  fillable : w.host.files.Fillable (location stateDir)
  held : ∀ id, w.logger.handle = some id → id < w.host.files.fresh

section

variable {stateDir : Bytes} {dir : Location} {w : World}

theorem Valid.cases (valid : Valid stateDir w) (usable : Usable stateDir dir) :
    (∃ f, w.host.files.get? (location stateDir) = some (.file f) ∧ w.file = some f) ∨
      w.host.files.get? (location stateDir) = none ∧ w.file = none ∧
        w.host.stat (path stateDir) = .error .noEntry := by
  rw [Host.stat,usable.spelled]
  rcases valid.fillable.stat usable.taken w.host.cwd with ⟨f,there,told⟩ | ⟨missing,told⟩
  · refine .inl ⟨f,there,?_⟩
    rw [file,valid.same,usable.spelled,Host.stat,told]
  · refine .inr ⟨missing,?_,told⟩
    rw [file,valid.same,usable.spelled,Host.stat,told]

theorem Valid.file_some {f : File} (valid : Valid stateDir w) (usable : Usable stateDir dir)
    (there : w.host.files.get? (location stateDir) = some (.file f)) : w.file = some f := by
  rcases valid.cases usable with ⟨g,found,file⟩ | ⟨missing,-⟩
  · rw [there] at found
    cases found
    exact file
  · rw [there] at missing
    cases missing

theorem Valid.file_none (valid : Valid stateDir w) (usable : Usable stateDir dir)
    (missing : w.host.files.get? (location stateDir) = none) : w.file = none := by
  rcases valid.cases usable with ⟨g,found,-⟩ | ⟨-,file,-⟩
  · rw [missing] at found
    cases found
  · exact file

theorem view_exact (w : World) :
    w.view = ⟨w.logger.level,w.clock,attachment w.logger.handle w.file,w.file.map File.data⟩ := by
  rw [view,content_exact]

-- The same world with a logger and files that have changed.
def after (w : World) (logger : Logger) (files : FileSystem) : World :=
  ⟨logger,w.clock,{ w.host with files }⟩

-- The invariant holds after a step, and the machine has come to the same.
structure Follows (stateDir : Bytes) (next : World) (seen : Machine) : Prop where
  valid : Valid stateDir next
  view : next.view = seen

-- Writing through a handle reaches the log exactly if its file still stands there.
theorem Valid.touches {id : Nat} (valid : Valid stateDir w) (usable : Usable stateDir dir)
    (held : w.logger.handle = some id) (line : Bytes) :
    Follows stateDir (w.after w.logger (w.host.files.modify id (· ++ line)))
      (w.view.write line) := by
  have still : Valid stateDir (w.after w.logger (w.host.files.modify id (· ++ line))) :=
    ⟨valid.same,valid.fillable.modify id (· ++ line),valid.held⟩
  have now : (w.after w.logger (w.host.files.modify id (· ++ line))).host.files.get?
      (location stateDir) = _ :=
    FileSystem.get?_modify w.host.files id (· ++ line) (location stateDir)
  refine ⟨still,?_⟩
  rw [view_exact,view_exact w]
  rcases valid.cases usable with ⟨f,there,file⟩ | ⟨missing,file,-⟩
  · rw [there,Option.map_some,FileSystem.touched] at now
    rw [still.file_some usable now,file,held]
    by_cases own : f.id = id
    · simp [after,held,attachment,own,Machine.write]
    · simp [after,held,attachment,own,Machine.write]
  · rw [missing] at now
    rw [still.file_none usable now,file,held]
    simp [after,held,attachment,Machine.write]

theorem Valid.openable (valid : Valid stateDir w) (usable : Usable stateDir dir) (mode : Nat) :
    ∃ made f opened,
      w.host.files.makeDirectories w.host.cwd (Path.parent (path stateDir)) = .ok made ∧
      made.openFile w.host.cwd (path stateDir) mode = .ok (f.id,opened) ∧
      FileSystem.Opens (location stateDir) w.host.files opened f := by
  have fillable := valid.fillable
  have taken := usable.taken
  rw [usable.parent,usable.spelled]
  rw [usable.place] at fillable taken ⊢
  exact fillable.opens taken w.host.cwd mode

-- The file that opening gives is the log as it was, and no other than the one held open if that
-- still stands there.
theorem Valid.same_file {opened : FileSystem} {f : File} (valid : Valid stateDir w)
    (usable : Usable stateDir dir)
    (opens : FileSystem.Opens (location stateDir) w.host.files opened f) :
    (w.file.map File.data).getD [] = f.data ∧
      attachment w.logger.handle (some f) = attachment w.logger.handle w.file := by
  rcases valid.cases usable with ⟨g,there,file⟩ | ⟨missing,file,-⟩
  · rw [file,opens.kept g there]
    exact ⟨rfl,rfl⟩
  · obtain ⟨new,empty⟩ := opens.made missing
    rw [file,empty]
    refine ⟨rfl,?_⟩
    cases held : w.logger.handle with
    | none => rfl
    | some id =>
      have older := valid.held id held
      have other : f.id ≠ id := by omega
      simp [attachment,other]

theorem Valid.opens {opened : FileSystem} {f : File} (valid : Valid stateDir w)
    (usable : Usable stateDir dir)
    (opens : FileSystem.Opens (location stateDir) w.host.files opened f) :
    Follows stateDir (w.after { w.logger with handle := some f.id } opened)
      { w.view with handle := .attached,content := some (w.view.content.getD []) } := by
  have still : Valid stateDir (w.after { w.logger with handle := some f.id } opened) := by
    refine ⟨valid.same,opens.fillable,fun id held => ?_⟩
    cases held
    exact opens.fillable.sound.known _ f opens.there
  refine ⟨still,?_⟩
  obtain ⟨content,-⟩ := valid.same_file usable opens
  rw [view_exact,view_exact w,still.file_some usable opens.there,content]
  simp [after,attachment]

theorem Valid.entry (valid : Valid stateDir w) (usable : Usable stateDir dir) (entry : Entry) :
    Follows stateDir (w.step (.entry entry)) (w.view.step (.entry entry)) := by
  have on : w.logger.stateDir.isEmpty = false := by simp [valid.same,usable.some_]
  have admitted : w.logger.admits entry.level =
      decide (w.logger.level.severity ≤ entry.level.severity) := by
    rw [Logger.admits,on]
    rfl
  by_cases loud : w.logger.level.severity ≤ entry.level.severity
  · have heard : w.view.step (.entry entry) = w.view.write (render w.clock entry) := if_pos loud
    rw [heard]
    cases held : w.logger.handle with
    | some id =>
      have stepped : w.step (.entry entry) =
          w.after w.logger (w.host.files.modify id (· ++ render w.clock entry)) := by
        simp only [step,Logger.record,admitted,loud,decide_true,if_true,Logger.ensureFile,held]
        rw [← held]
        rfl
      rw [stepped]
      exact valid.touches usable held _
    | none =>
      obtain ⟨made,f,opened,done,opening,opens⟩ := valid.openable usable 0o640
      have first := valid.opens usable opens
      have stepped : w.step (.entry entry) =
          (w.after { w.logger with handle := some f.id } opened).after
            { w.logger with handle := some f.id }
            (opened.modify f.id (· ++ render w.clock entry)) := by
        simp only [step,Logger.record,admitted,loud,decide_true,if_true,Logger.ensureFile,held,
          valid.same,done,opening,Except.map]
        rfl
      have written := first.valid.touches usable rfl (render w.clock entry)
      rw [stepped]
      refine ⟨written.valid,written.view.trans ?_⟩
      rw [first.view]
      simp [Machine.write,view,attachment,held]
  · have unheard : w.view.step (.entry entry) = w.view := if_neg loud
    rw [unheard,step_quiet (Int.not_le.mp loud)]
    exact ⟨valid,rfl⟩

theorem Valid.removed (valid : Valid stateDir w) (usable : Usable stateDir dir) (depth : Nat) :
    Follows stateDir (w.step (.remove depth)) (w.view.step (.remove depth)) := by
  have way : (location stateDir).take depth <+: location stateDir := List.take_prefix ..
  have inner : location stateDir ≠ [] := by simp [usable.place]
  obtain ⟨fillable,gone,fresh⟩ := valid.fillable.removeAll usable.taken way w.host.cwd
  have files : (w.step (.remove depth)).host.files =
      w.host.files.removeAll w.host.cwd (Host.locationPath ((location stateDir).take depth)) := by
    rw [← valid.same]
    rfl
  have still : Valid stateDir (w.step (.remove depth)) := by
    refine ⟨valid.same,files ▸ fillable,fun id held => ?_⟩
    rw [files,fresh]
    exact valid.held id held
  refine ⟨still,?_⟩
  rw [view_exact,view_exact w,still.file_none usable (by rw [files]; exact gone inner)]
  cases held : w.logger.handle with
  | none => simp [step,Machine.step,attachment,held]
  | some id =>
    rcases valid.cases usable with ⟨f,-,file⟩ | ⟨-,file,-⟩
    · by_cases own : f.id = id <;> simp [step,Machine.step,attachment,held,file,own]
    · simp [step,Machine.step,attachment,held,file]

theorem Valid.rewritten (valid : Valid stateDir w) (usable : Usable stateDir dir) (data : Bytes)
    (mode : Nat) :
    Follows stateDir (w.step (.rewrite data mode)) (w.view.step (.rewrite data mode)) := by
  obtain ⟨made,f,opened,done,opening,opens⟩ := valid.openable usable mode
  have written : made.write w.host.cwd (path stateDir) data mode =
      .ok (opened.modify f.id fun _ => data) := by
    rw [FileSystem.write,opening]
    rfl
  have stepped : w.step (.rewrite data mode) =
      w.after w.logger (opened.modify f.id fun _ => data) := by
    simp only [step,Host.put,valid.same,done,FileSystem.left,written]
    rfl
  have still : Valid stateDir (w.after w.logger (opened.modify f.id fun _ => data)) :=
    ⟨valid.same,opens.fillable.modify f.id fun _ => data,fun id held =>
      Nat.lt_of_lt_of_le (valid.held id held) opens.older⟩
  have now : (w.after w.logger (opened.modify f.id fun _ => data)).host.files.get?
      (location stateDir) = _ :=
    FileSystem.get?_modify opened f.id (fun _ => data) (location stateDir)
  rw [opens.there,Option.map_some,FileSystem.touched,if_pos (beq_self_eq_true f.id)] at now
  obtain ⟨-,handle⟩ := valid.same_file usable opens
  rw [stepped]
  refine ⟨still,?_⟩
  rw [view_exact,view_exact w,still.file_some usable now]
  have named : attachment w.logger.handle (some { f with data }) =
      attachment w.logger.handle (some f) := by
    cases w.logger.handle <;> rfl
  simp [after,Machine.step,named,handle]

-- A file that is held open was given out, so the system takes it back.
theorem Valid.closes (valid : Valid stateDir w) : w.logger.closeFault? w.host = none := by
  unfold Logger.closeFault?
  cases held : w.logger.handle with
  | none => rfl
  | some id =>
    have given : w.host.files.refuseClose id = none := if_pos (valid.held id held)
    rw [Option.bind_some,given]
    rfl

theorem Valid.step (valid : Valid stateDir w) (usable : Usable stateDir dir) (s : Step) :
    Follows stateDir (w.step s) (w.view.step s) := by
  cases s with
  | entry entry => exact valid.entry usable entry
  | close =>
    refine ⟨⟨valid.same,valid.fillable,fun id held => by cases held⟩,?_⟩
    rfl
  | clock time => exact ⟨⟨valid.same,valid.fillable,valid.held⟩,rfl⟩
  | renew level =>
    refine ⟨⟨valid.same,valid.fillable,fun id held => by cases held⟩,?_⟩
    rfl
  | remove depth => exact valid.removed usable depth
  | rewrite data mode => exact valid.rewritten usable data mode

theorem Valid.run (valid : Valid stateDir w) (usable : Usable stateDir dir) (steps : List Step) :
    Follows stateDir (w.run steps) (w.view.run steps) := by
  induction steps generalizing w with
  | nil => exact ⟨valid,rfl⟩
  | cons s rest ih =>
    have first := valid.step usable s
    have later := ih first.valid
    rw [first.view] at later
    exact later

end

end World

-- A host on which a log can be kept: an absolute state directory, a directory for the log that can be
-- made, and a log that is a regular file or not there yet.
structure Loggable (stateDir : Bytes) (host : Host) : Prop where
  absolute : Path.isAbsolute stateDir = true
  sound : host.files.Sound
  makeable : ∃ made,
    host.files.makeDirectories host.cwd (Path.parent (path stateDir)) = .ok made
  log : (∃ f, host.stat (path stateDir) = .ok (.file f)) ∨
    host.stat (path stateDir) = .error .noEntry

theorem Loggable.starts {stateDir : Bytes} {host : Host} (loggable : Loggable stateDir host)
    (level : Level) (clock : Moment) : ∃ dir, Usable stateDir dir ∧
      World.Valid stateDir ⟨{ stateDir,level },clock,host⟩ := by
  obtain ⟨dir,placed⟩ := placed_exists loggable.absolute
  obtain ⟨made,makeable⟩ := loggable.makeable
  have log := loggable.log
  have named := placed.named
  simp only [Host.stat] at log
  rw [placed.spelled,placed.place] at log
  rw [placed.parent] at makeable
  rw [placed.place] at named
  obtain ⟨taken,fillable⟩ := loggable.sound.fillable named (by decide) makeable log
  have some_ : stateDir ≠ [] := by
    rintro rfl
    cases loggable.absolute
  rw [← placed.place] at taken fillable
  exact ⟨dir,⟨placed,some_,taken⟩,rfl,fillable,fun id held => by cases held⟩

-- Whatever happens to a logger and its file, the log is what the machine says. A log that the
-- machine has not got is not there; entries below the level leave everything as it is, and so does
-- closing a second time. Closing never fails.
theorem log_follows_machine {stateDir : Bytes} {host : Host} (loggable : Loggable stateDir host)
    (level : Level) (clock : Moment) (steps : List Step) :
    let start : World := ⟨{ stateDir,level },clock,host⟩
    let now := start.run steps
    now.view =
      Machine.run ⟨level,clock,.closed,(host.read (path stateDir)).toOption⟩ steps ∧
    (now.view.content = none → now.host.stat (path stateDir) = .error .noEntry) ∧
    (∀ entry, entry.level.severity < now.logger.level.severity → now.step (.entry entry) = now) ∧
    now.logger.closeFault? now.host = none ∧
    (now.step .close).host = now.host ∧ (now.step .close).step .close = now.step .close := by
  obtain ⟨dir,usable,valid⟩ := loggable.starts level clock
  have follows := valid.run usable steps
  refine ⟨follows.view,fun gone => ?_,fun entry quiet => World.step_quiet quiet,
    follows.valid.closes,rfl,rfl⟩
  rcases follows.valid.cases usable with ⟨f,-,file⟩ | ⟨-,-,told⟩
  · rw [World.view_exact,file] at gone
    cases gone
  · exact told

-- A log that is there at first, is lost while it is open, comes back in another's hands and is found
-- again after closing.
def keptHost : Host := Host.put ⟨.empty,none,[]⟩ (text "/s/logs/orion.log") (text "old\n") 0o640

theorem kept_loggable : Loggable (text "/s/") keptHost where
  absolute := by rfl
  sound := (Host.Sound.put Host.bare_sound ..).files
  makeable := ⟨_,by rfl⟩
  log := .inl ⟨_,by rfl⟩

def noon : Moment := ⟨2026,1,1,12,0,0⟩

def said (level : Level) (message : Bytes) : Step := .entry ⟨level,[],text "c",message⟩

def quietSteps : List Step := [said .debug (text "a"),said .info (text "b")]

def lossySteps : List Step :=
  quietSteps ++ [.remove 2,said .error (text "c"),.rewrite (text "x") 0o644,said .warn (text "d"),
    .close,.close,said .warn (text "e")]

theorem kept_log_follows_machine :
    (World.run ⟨{ stateDir := text "/s/",level := .info },noon,keptHost⟩ quietSteps).view =
      ⟨.info,noon,.attached,some (text "old\n[2026-01-01 12:00:00] [INFO] [global] [c] b\n")⟩ ∧
    (World.run ⟨{ stateDir := text "/s/",level := .info },noon,keptHost⟩ lossySteps).view =
      ⟨.info,noon,.attached,some (text "x[2026-01-01 12:00:00] [WARN] [global] [c] e\n")⟩ :=
  ⟨(log_follows_machine kept_loggable .info noon quietSteps).1.trans (by decide +kernel),
    (log_follows_machine kept_loggable .info noon lossySteps).1.trans (by decide +kernel)⟩

end ScriptLauncher.Log
