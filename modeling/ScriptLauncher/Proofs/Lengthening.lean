import ScriptLauncher.Worktree
import ScriptLauncher.Proofs.Appending

namespace ScriptLauncher

namespace FileSystem

theorem resolve_modify (fs : FileSystem) (cwd : Option Location) (path : Bytes) (id : Nat)
    (change : Bytes → Bytes) : (fs.modify id change).resolve cwd path =
      (fs.resolve cwd path).map fun found => (found.1,found.2.map (touched id change)) := by
  unfold resolve
  split
  · rfl
  · split
    · rfl
    · split
      · rfl
      · split
        · exact walk_modify fs id change [] _
        · cases cwd with
          | none => rfl
          | some dir => exact walk_modify fs id change dir _

-- What stands at a path while the content of a file changes.
theorem stat_touched (fs : FileSystem) (cwd : Option Location) (path : Bytes) (id : Nat)
    (change : Bytes → Bytes) :
    (fs.modify id change).stat cwd path = (fs.stat cwd path).map (touched id change) := by
  rw [stat,stat,resolve_modify]
  cases fs.resolve cwd path with
  | error how => rfl
  | ok found =>
    obtain ⟨place,node⟩ := found
    cases node <;> rfl

-- Where a file stands, none of the directories above it need be made.
theorem makeAll_walked {fs : FileSystem} {above below : List Bytes} (some_ : below ≠ [])
    (named : ∀ name ∈ above ++ below, Path.Name name) {base place : Location} {f : File}
    (walked : fs.walk base (above ++ below) = .ok (place,some (.file f))) :
    fs.makeAll base above = .ok fs := by
  induction above generalizing base with
  | nil => rfl
  | cons name rest ih =>
    obtain ⟨first,others⟩ := List.forall_mem_cons.mp named
    rw [List.cons_append,walk_name first] at walked
    rw [makeAll_name first]
    split at walked
    · cases walked
    · rename_i short
      rw [if_neg short]
      cases found : fs.get? (base ++ [name]) with
      | none =>
        rw [found] at walked
        dsimp only at walked
        split at walked <;> cases walked
      | some node =>
        rw [found] at walked
        cases node with
        | directory => exact ih others walked
        | file g => simp [some_] at walked

end FileSystem

namespace Host

-- A host that differs from another one at most in what was added to its log.
structure Lengthened (stateDir : Bytes) (id : Nat) (base now : Host) : Prop where
  cwd : now.cwd = base.cwd
  files : now.files = base.files ∨
    stateDir ≠ [] ∧ ∃ added, now.files = base.files.modify id (· ++ added)

-- A path at which the log does not stand.
def Other (stateDir : Bytes) (id : Nat) (base : Host) (path : Bytes) : Prop :=
  stateDir ≠ [] → ∀ f, base.stat path = .ok (.file f) → f.id ≠ id

section

variable {stateDir : Bytes} {id : Nat} {base now : Host}

theorem Lengthened.stat (lengthened : Lengthened stateDir id base now) {path : Bytes}
    (other : Other stateDir id base path) : now.stat path = base.stat path := by
  rcases lengthened.files with same | ⟨on,added,files⟩
  · rw [Host.stat,Host.stat,lengthened.cwd,same]
  · rw [Host.stat,lengthened.cwd,files,FileSystem.stat_touched,← Host.stat]
    cases told : base.stat path with
    | error how => rfl
    | ok node =>
      cases node with
      | directory => rfl
      | file f =>
        have foreign := other on f told
        simp [Except.map,FileSystem.touched,foreign]

-- What stands at a path is of the same kind, whatever was added.
inductive Alike (one two : Except Refusal Node) : Prop where
  | refused (first : one = .error how) (second : two = .error how) : Alike one two
  | directory (first : one = .ok .directory) (second : two = .ok .directory) : Alike one two
  | file (first : one = .ok (.file f)) (second : two = .ok (.file g)) : Alike one two

theorem Lengthened.alike (lengthened : Lengthened stateDir id base now) (path : Bytes) :
    Alike (base.stat path) (now.stat path) := by
  have told : now.stat path = base.stat path ∨ ∃ change,
      now.stat path = (base.stat path).map (FileSystem.touched id change) := by
    rcases lengthened.files with same | ⟨on,added,files⟩
    · exact .inl (by rw [Host.stat,Host.stat,lengthened.cwd,same])
    · refine .inr ⟨(· ++ added),?_⟩
      rw [Host.stat,lengthened.cwd,files,FileSystem.stat_touched,← Host.stat]
  cases before : base.stat path with
  | error how =>
    rcases told with same | ⟨change,same⟩
    · exact .refused rfl (same.trans before)
    · exact .refused rfl (by rw [same,before]; rfl)
  | ok node =>
    cases node with
    | directory =>
      rcases told with same | ⟨change,same⟩
      · exact .directory rfl (same.trans before)
      · exact .directory rfl (by rw [same,before]; rfl)
    | file f =>
      rcases told with same | ⟨change,same⟩
      · exact .file rfl (same.trans before)
      · exact .file rfl (by rw [same,before]; rfl)

theorem Lengthened.read (lengthened : Lengthened stateDir id base now) {path : Bytes}
    (other : Other stateDir id base path) : now.read path = base.read path := by
  rw [Host.read,Host.read,lengthened.stat other]

theorem Lengthened.isFile (lengthened : Lengthened stateDir id base now) (path : Bytes) :
    now.isFile path = base.isFile path := by
  unfold Host.isFile
  cases lengthened.alike path with
  | refused first second | directory first second | file first second => rw [first,second]

end

end Host

namespace FileSystem

theorem openFile_standing {fs : FileSystem} {cwd : Option Location} {path : Bytes} {f : File}
    (told : fs.stat cwd path = .ok (.file f)) (mode : Nat) :
    fs.openFile cwd path mode = .ok (f.id,fs) := by
  unfold FileSystem.stat at told
  split at told
  · rename_i resolved
    cases told
    rw [openFile,resolved]
  · cases told
  · cases told

end FileSystem

namespace Log

theorem makeDirectories_standing {fs : FileSystem} {cwd : Option Location} {stateDir : Bytes}
    {f : File} (told : fs.stat cwd (path stateDir) = .ok (.file f)) :
    FileSystem.left (fs.makeDirectories cwd (Path.parent (path stateDir))) = fs := by
  obtain ⟨base,inner,whole,front⟩ := path_descends cwd stateDir
  obtain ⟨parts,along,made⟩ := FileSystem.makeDirectories_left fs cwd (Path.parent (path stateDir))
  obtain ⟨above,⟨rest,way⟩,same⟩ := front.stops parts along
  rw [made,same]
  unfold FileSystem.stat at told
  split at told
  · rename_i resolved
    cases told
    have walked := FileSystem.resolve_walk resolved
    have named := whole.named
    rw [whole.walk] at walked
    rw [← way,List.append_assoc] at walked named
    rw [FileSystem.makeAll_walked (by simp) named walked]
    rfl
  · cases told
  · cases told

-- A logger that has at most added lines to a log that was there, on a host with these variables.
structure Lengthens (stateDir : Bytes) (f : File) (base : Host) (vars : Variables)
    (logger : Logger) (now : Host) : Prop where
  dir : logger.stateDir = stateDir
  handle : ∀ id, logger.handle = some id → id = f.id
  lengthened : Host.Lengthened stateDir f.id base now
  vars : now.vars = vars

section

variable {stateDir : Bytes} {f : File} {base now : Host} {vars : Variables} {logger : Logger}

theorem Lengthens.told (lengthens : Lengthens stateDir f base vars logger now)
    (there : base.stat (path stateDir) = .ok (.file f)) :
    ∃ g, g.id = f.id ∧ now.files.stat now.cwd (path stateDir) = .ok (.file g) := by
  rcases lengthens.lengthened.files with same | ⟨on,added,files⟩
  · rw [lengthens.lengthened.cwd,same]
    exact ⟨f,rfl,there⟩
  · rw [lengthens.lengthened.cwd,files]
    exact ⟨{ f with data := f.data ++ added },rfl,FileSystem.stat_modify there (· ++ added)⟩

theorem Lengthens.adds (lengthens : Lengthens stateDir f base vars logger now) (on : stateDir ≠ [])
    (line : Bytes) : Host.Lengthened stateDir f.id base
      { now with files := now.files.modify f.id (· ++ line) } where
  cwd := lengthens.lengthened.cwd
  files := by
    rcases lengthens.lengthened.files with same | ⟨-,added,files⟩
    · exact .inr ⟨on,line,by rw [same]⟩
    · refine .inr ⟨on,added ++ line,?_⟩
      dsimp only
      rw [files,FileSystem.modify_modify]
      congr 1
      funext data
      simp

-- One entry, at whatever level.
theorem record_lengthens (there : stateDir ≠ [] → base.stat (path stateDir) = .ok (.file f))
    (lengthens : Lengthens stateDir f base vars logger now) (time : Moment) (entry : Entry) :
    Lengthens stateDir f base vars (logger.record time entry now).1
      (logger.record time entry now).2 := by
  obtain rfl := lengthens.dir
  unfold Logger.record
  split
  · rename_i admitted
    have on : logger.stateDir ≠ [] := by
      intro off
      simp [Logger.admits,off] at admitted
    have added := lengthens.adds on (render time entry)
    cases handle : logger.handle with
    | some id =>
      obtain rfl := lengthens.handle id handle
      simp only [Logger.ensureFile,handle]
      exact ⟨rfl,fun other same => by cases same; rfl,added,lengthens.vars⟩
    | none =>
      obtain ⟨g,own,told⟩ := lengthens.told (there on)
      simp only [Logger.ensureFile,Logger.prepared,handle]
      have stood := makeDirectories_standing told
      cases making : now.files.makeDirectories now.cwd
          (Path.parent (Log.path logger.stateDir)) with
      | error stopped =>
        rw [making] at stood
        dsimp only
        rw [stood]
        exact lengthens
      | ok made =>
        rw [making] at stood
        obtain rfl : made = now.files := stood
        simp only [FileSystem.openFile_standing told,Except.map,own]
        exact ⟨rfl,fun other same => by cases same; rfl,added,lengthens.vars⟩
  · exact lengthens

end

end Log

namespace Worktree

-- The repository that the search for a worktree comes to.
structure Reaches (host : Host) (dir : Bytes) (repository : Repository) : Prop where
  named : ∃ path, host.absolute dir = .ok path ∧ Worktree.named host path = .ok repository
  there : ∃ node, host.stat repository.git = .ok node

-- Every path at which a file is opened to find the worktree of a directory.
inductive Opens (host : Host) (dir : Bytes) : Bytes → Prop where
  | marker (from_ : host.absolute dir = .ok path)
      (seen : search host (ancestry path) = .ok (some sighting)) :
      Opens host dir (Path.join [sighting.root,marker])
  | common (reaches : Reaches host dir repository) :
      Opens host dir (Path.join [repository.git,text "commondir"])
  | head (reaches : Reaches host dir repository)
      (shared : commonDir host repository.git = .ok common) :
      Opens host dir (Path.join [repository.git,text "HEAD"])
  | packed (reaches : Reaches host dir repository)
      (shared : commonDir host repository.git = .ok common)
      (empty : ∀ f, host.stat (Path.join [repository.git,text "HEAD"]) = .ok (.file f) →
        f.data = []) :
      Opens host dir (Path.join [common.getD repository.git,text "packed-refs"])

section

variable {stateDir : Bytes} {id : Nat} {base now : Host}

theorem vantage_lengthened (lengthened : Host.Lengthened stateDir id base now) (path : Bytes) :
    vantage now path = vantage base path := by
  unfold vantage
  cases lengthened.alike path with
  | refused first second | directory first second | file first second => rw [first,second]

theorem search_lengthened (lengthened : Host.Lengthened stateDir id base now) {paths : List Bytes}
    (other : ∀ sighting, search base paths = .ok (some sighting) →
      Host.Other stateDir id base (Path.join [sighting.root,marker])) :
    search now paths = search base paths := by
  induction paths with
  | nil => rfl
  | cons path above ih =>
    unfold search at other ⊢
    rw [vantage_lengthened lengthened]
    cases standing : vantage base path with
    | error fault => rfl
    | ok root =>
      rw [standing] at other
      dsimp only at other ⊢
      cases told : base.stat (Path.join [root,marker]) with
      | ok node =>
        rw [told] at other
        rw [lengthened.stat (other _ rfl),told]
      | error how =>
        rw [told] at other
        have again : now.stat (Path.join [root,marker]) = .error how := by
          cases lengthened.alike (Path.join [root,marker]) with
          | refused first second =>
            rw [told] at first
            cases first
            exact second
          | directory first _ | file first _ =>
            rw [told] at first
            cases first
        rw [again]
        cases how <;> first | rfl | exact ih other

theorem commonDir_lengthened (lengthened : Host.Lengthened stateDir id base now) {git : Bytes}
    (other : Host.Other stateDir id base (Path.join [git,text "commondir"])) :
    commonDir now git = commonDir base git := by
  unfold commonDir
  rw [lengthened.read other]
  cases base.read (Path.join [git,text "commondir"]) with
  | error fault => rfl
  | ok data =>
    cases data with
    | nil => rfl
    | cons b rest =>
      dsimp only
      cases lengthened.alike (if Path.isAbsolute (Space.trim (b :: rest)) then
          Path.clean (Space.trim (b :: rest)) else Path.join [git,Space.trim (b :: rest)]) with
      | refused first second | directory first second | file first second => rw [first,second]

theorem hasHead_lengthened (lengthened : Host.Lengthened stateDir id base now) {git common : Bytes}
    (head : Host.Other stateDir id base (Path.join [git,text "HEAD"]))
    (packed : (∀ f, base.stat (Path.join [git,text "HEAD"]) = .ok (.file f) → f.data = []) →
      Host.Other stateDir id base (Path.join [common,text "packed-refs"])) :
    hasHead now git common = hasHead base git common := by
  unfold hasHead
  rw [lengthened.stat head]
  split
  · rfl
  · rename_i none_
    have empty (f : File) (there : base.stat (Path.join [git,text "HEAD"]) = .ok (.file f)) :
        f.data = [] := by
      obtain ⟨id,mode,data⟩ := f
      cases data with
      | nil => rfl
      | cons b rest => exact (none_ id mode b rest there).elim
    rw [lengthened.read (packed empty)]

theorem checkRepository_lengthened (lengthened : Host.Lengthened stateDir id base now)
    {dir : Bytes} (other : ∀ path, Opens base dir path → Host.Other stateDir id base path)
    {repository : Repository}
    (named : ∃ path, base.absolute dir = .ok path ∧ Worktree.named base path = .ok repository) :
    checkRepository now repository.git = checkRepository base repository.git := by
  unfold checkRepository
  cases lengthened.alike repository.git with
  | refused first second =>
    rw [first,second]
    rename_i how
    cases how <;> rfl
  | directory first second | file first second =>
    have reaches : Reaches base dir repository := ⟨named,_,first⟩
    rw [first,second,commonDir_lengthened lengthened (other _ (.common reaches))]
    cases shared : commonDir base repository.git with
    | error fault => rfl
    | ok common =>
      exact hasHead_lengthened lengthened (other _ (.head reaches shared))
        fun empty => other _ (.packed reaches shared empty)

-- A log that is not opened on the way makes no difference to where a worktree is found.
theorem root_lengthened (lengthened : Host.Lengthened stateDir id base now) {dir : Bytes}
    (rooted : Path.isAbsolute dir = true)
    (other : ∀ path, Opens base dir path → Host.Other stateDir id base path) :
    root now dir = root base dir := by
  have from_ : base.absolute dir = .ok (Path.clean dir) := by rw [Host.absolute,if_pos rooted]
  have again : now.absolute dir = .ok (Path.clean dir) := by rw [Host.absolute,if_pos rooted]
  have same : named now (Path.clean dir) = named base (Path.clean dir) := by
    unfold named
    rw [search_lengthened lengthened fun sighting seen => other _ (.marker from_ seen)]
  have located : locate now (Path.clean dir) = locate base (Path.clean dir) := by
    unfold locate
    rw [same]
    cases chosen : named base (Path.clean dir) with
    | error fault => rfl
    | ok repository =>
      dsimp only
      rw [checkRepository_lengthened lengthened other ⟨_,from_,chosen⟩]
  unfold root
  rw [from_,again]
  dsimp only
  rw [located]

end

end Worktree

end ScriptLauncher
