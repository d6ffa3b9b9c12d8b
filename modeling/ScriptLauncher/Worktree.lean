import ScriptLauncher.Text.Space
import ScriptLauncher.Host

namespace ScriptLauncher.Worktree

-- The worktree a directory lies in. From the directory upwards the first entry `.git` decides: it
-- is the repository's directory, or a file that names it. A repository must have a head, in a file
-- of its own or among its packed references. Where no directory has the entry, the root directory
-- may still be a repository, but it is not a worktree then.

def marker : Bytes := text ".git"

def missing : Fault := .of .notARepository

def ancestry (path : Bytes) : List Bytes :=
  let parts := (Path.components path).filter fun part => !part.isEmpty
  (List.range (parts.length + 1)).map fun k => Path.render true (parts.take (parts.length - k))

-- Where to look for the marker when the walk stands at a path: the path itself, or for a file the
-- directory it lies in.
def vantage (host : Host) (path : Bytes) : Except Fault Bytes :=
  match host.stat path with
  | .ok .directory => .ok path
  | .ok (.file _) => .ok (Path.parent path)
  | .error .noEntry => .ok path
  | .error how => .error (Host.refused (text "stat") path how)

structure Sighting where
  -- Where the walk stood.
  origin : Bytes
  root : Bytes
  node : Node

def search (host : Host) : List Bytes → Except Fault (Option Sighting)
  | [] => .ok none
  | path :: above =>
    match vantage host path with
    | .error fault => .error fault
    | .ok root =>
      match host.stat (Path.join [root,marker]) with
      | .ok node => .ok (some ⟨path,root,node⟩)
      | .error .noEntry => search host above
      | .error how => .error (Host.refused (text "stat") (Path.join [root,marker]) how)

def gitDir (sighting : Sighting) : Except Fault Bytes :=
  match sighting.node with
  | .directory => .ok (Path.join [sighting.root,marker])
  | .file f =>
    match Bytes.after? (text "gitdir: ") f.data with
    | none => .error (.of (.other (text ".git file has no gitdir:  prefix")))
    | some rest =>
      let named := Space.trim (rest.takeWhile (· != Bytes.newline))
      .ok (if Path.isAbsolute named then Path.clean named else Path.join [sighting.origin,named])

-- The directory shared between worktrees, if the repository names one.
def commonDir (host : Host) (git : Bytes) : Except Fault (Option Bytes) :=
  match host.read (Path.join [git,text "commondir"]) with
  | .error fault => if fault.isMissing then .ok none else .error fault
  | .ok [] => .ok none
  | .ok data =>
    let named := Space.trim data
    let dir := if Path.isAbsolute named then Path.clean named else Path.join [git,named]
    match host.stat dir with
    | .ok _ => .ok (some dir)
    | .error .noEntry =>
      .error (.of (.other (text "repository's commondir path does not exist")))
    | .error how => .error (Host.refused (text "stat") dir how)

-- A line ends at a newline, and a carriage return before it does not count.
def lines (data : Bytes) : List Bytes :=
  let pieces := Bytes.splitOn Bytes.newline data
  let ended := if pieces.getLast? == some [] then pieces.dropLast else pieces
  ended.map fun line => if line.getLast? == some 13 then line.dropLast else line

-- Whether packed references name a head. Reading stops there.
def packedHead : List Bytes → Except Fault Bool
  | [] => .ok false
  | line :: rest =>
    match line with
    | [] => packedHead rest
    | first :: _ =>
      if first == byte '#' || first == byte '^' then packedHead rest
      else match Bytes.splitOn Bytes.space line with
        | [_,name] => if name == text "HEAD" then .ok true else packedHead rest
        | _ => .error (.of (.other (text "malformed packed-ref")))

-- Whether the repository has a head: a file that is not empty, or a packed reference.
def hasHead (host : Host) (git common : Bytes) : Except Fault Bool :=
  match host.stat (Path.join [git,text "HEAD"]) with
  | .ok (.file ⟨_,_,_ :: _⟩) => .ok true
  | _ =>
    match host.read (Path.join [common,text "packed-refs"]) with
    | .error fault => if fault.isMissing then .ok false else .error fault
    | .ok data => packedHead (lines data)

def checkRepository (host : Host) (git : Bytes) : Except Fault Bool :=
  match host.stat git with
  | .error .noEntry => .ok false
  | .error how => .error (Host.refused (text "stat") git how)
  | .ok _ =>
    match commonDir host git with
    | .error fault => .error fault
    | .ok common => hasHead host git (common.getD git)

-- A repository to open, and the root of its worktree. A bare one has none.
structure Repository where
  git : Bytes
  worktree : Option Bytes

-- The repository that a search comes to. Without a marker the root directory itself is tried.
def named (host : Host) (path : Bytes) : Except Fault Repository :=
  match search host (ancestry path) with
  | .error fault => .error fault
  | .ok none => .ok ⟨Host.locationPath [],none⟩
  | .ok (some sighting) => (gitDir sighting).map fun git => ⟨git,some sighting.root⟩

def locate (host : Host) (path : Bytes) : Except Fault (Option Repository) :=
  match named host path with
  | .error fault => .error fault
  | .ok repository =>
    (checkRepository host repository.git).map fun found => if found then some repository else none

-- A repository without a worktree is as good as none.
def root (host : Host) (dir : Bytes) : Except Fault Bytes :=
  match host.absolute dir with
  | .error fault => .error (.context (text "resolve " ++ dir ++ text ": ") fault)
  | .ok path =>
    match locate host path with
    | .error fault => .error (.context (text "open repository: ") fault)
    | .ok none => .error missing
    | .ok (some ⟨_,none⟩) => .error missing
    | .ok (some ⟨_,some found⟩) => .ok found

end ScriptLauncher.Worktree
