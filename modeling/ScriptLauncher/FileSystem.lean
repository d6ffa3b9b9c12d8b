import ScriptLauncher.Fault
import ScriptLauncher.Path

namespace ScriptLauncher

-- A file system as a value: directories and regular files at absolute locations, no links. A file
-- keeps its identity while its content changes and loses it when it is removed, so what is written
-- through an open handle after a removal reaches no file, even where a new file has the same name.
-- Paths are resolved one component after the other, as the operating system does: `..` leaves a
-- directory that must exist, and a file in the middle of a path is a fault of its own.

abbrev Location := List Bytes

structure File where
  id : Nat
  mode : Nat
  data : Bytes

inductive Node where
  | directory
  | file (f : File)

structure FileSystem where
  entries : List (Location × Node)
  -- Identity of the next file.
  fresh : Nat

namespace FileSystem

-- The root directory is always there.
def empty : FileSystem := ⟨[],0⟩

def get? (fs : FileSystem) (place : Location) : Option Node :=
  if place.isEmpty then some .directory
  else (fs.entries.find? (·.1 == place)).map (·.2)

def set (fs : FileSystem) (place : Location) (node : Node) : FileSystem :=
  { fs with entries := (place,node) :: fs.entries.filter (·.1 != place) }

-- Longest name and longest path that the system takes.
def maxName : Nat := 255
def maxPath : Nat := 4095

-- Follows components from a directory. The last one may be missing.
def walk (fs : FileSystem) : Location → List Bytes → Except Refusal (Location × Option Node)
  | dir,[] => .ok (dir,fs.get? dir)
  | dir,part :: rest =>
    if part.isEmpty || part == Path.dot then walk fs dir rest
    else if part == Path.dotDot then walk fs dir.dropLast rest
    else if maxName < part.length then .error .nameTooLong
    else match fs.get? (dir ++ [part]) with
      | some .directory => walk fs (dir ++ [part]) rest
      | some (.file f) =>
        if rest.isEmpty then .ok (dir ++ [part],some (.file f)) else .error .notDirectory
      | none =>
        if rest.all List.isEmpty then .ok (dir ++ [part],none) else .error .noEntry

-- Where a path leads from a working directory, which may be gone.
def resolve (fs : FileSystem) (cwd : Option Location) (path : Bytes) :
    Except Refusal (Location × Option Node) :=
  if path.contains 0 then .error .invalidArgument
  else if path.isEmpty then .error .noEntry
  else if maxPath < path.length then .error .nameTooLong
  else if Path.isAbsolute path then fs.walk [] (Path.components path)
  else match cwd with
    | some dir => fs.walk dir (Path.components path)
    | none => .error .noEntry

def stat (fs : FileSystem) (cwd : Option Location) (path : Bytes) : Except Refusal Node :=
  match fs.resolve cwd path with
  | .ok (_,some node) => .ok node
  | .ok (_,none) => .error .noEntry
  | .error how => .error how

-- Directories along components. Those made before a component is refused stay.
def makeAll (fs : FileSystem) : Location → List Bytes → Except (Refusal × FileSystem) FileSystem
  | _,[] => .ok fs
  | dir,part :: rest =>
    if part.isEmpty || part == Path.dot then makeAll fs dir rest
    else if part == Path.dotDot then makeAll fs dir.dropLast rest
    else if maxName < part.length then .error (.nameTooLong,fs)
    else match fs.get? (dir ++ [part]) with
      | some .directory => makeAll fs (dir ++ [part]) rest
      | some (.file _) => .error (.notDirectory,fs)
      | none => makeAll (fs.set (dir ++ [part]) .directory) (dir ++ [part]) rest

-- The files that an action leaves, whether or not it comes to its end.
def left : Except (Refusal × FileSystem) FileSystem → FileSystem
  | .ok fs => fs
  | .error (_,fs) => fs

-- An action that would be refused at its end at the latest.
def refuse (how : Refusal) (done : Except (Refusal × FileSystem) FileSystem) :
    Except (Refusal × FileSystem) FileSystem :=
  match done with
  | .ok fs => .error (how,fs)
  | .error stopped => .error stopped

-- The components of a path for which the system still takes the path up to them: it is not too long
-- and has no zero byte.
def leading (path : Bytes) : List Bytes :=
  (Path.components path).take (((path.takeWhile (· != 0)).take (maxPath + 1)).count Bytes.slash)

def makeFrom (fs : FileSystem) (dir : Location) (path : Bytes) :
    Except (Refusal × FileSystem) FileSystem :=
  if path.contains 0 then refuse .invalidArgument (fs.makeAll dir (leading path))
  else if maxPath < path.length then refuse .nameTooLong (fs.makeAll dir (leading path))
  else fs.makeAll dir (Path.components path)

def makeDirectories (fs : FileSystem) (cwd : Option Location) (path : Bytes) :
    Except (Refusal × FileSystem) FileSystem :=
  if Path.isAbsolute path then fs.makeFrom [] path
  else match cwd with
    | some dir => fs.makeFrom dir path
    | none => .error (.noEntry,fs)

-- Opens a file for writing and gives its identity. A missing file is made, empty.
def openFile (fs : FileSystem) (cwd : Option Location) (path : Bytes) (mode : Nat) :
    Except Refusal (Nat × FileSystem) :=
  match fs.resolve cwd path with
  | .error how => .error how
  | .ok (_,some .directory) => .error .isDirectory
  | .ok (_,some (.file f)) => .ok (f.id,fs)
  | .ok (place,none) =>
    .ok (fs.fresh,{ fs.set place (.file ⟨fs.fresh,mode,[]⟩) with fresh := fs.fresh + 1 })

-- What the system says to closing a file that is open under an identity. It takes each one that it
-- has given out, also after the file has been removed.
def refuseClose (fs : FileSystem) (id : Nat) : Option Refusal :=
  if id < fs.fresh then none else some .badDescriptor

-- Changes the content of the file with an identity, wherever it stands; none changes nothing.
def modify (fs : FileSystem) (id : Nat) (change : Bytes → Bytes) : FileSystem :=
  { fs with entries := fs.entries.map fun
      | (place,.file f) =>
        (place,.file (if f.id == id then { f with data := change f.data } else f))
      | other => other }

-- The content of the file at a path becomes `data`; a missing file is made.
def write (fs : FileSystem) (cwd : Option Location) (path data : Bytes) (mode : Nat) :
    Except Refusal FileSystem :=
  (fs.openFile cwd path mode).map fun (id,opened) => opened.modify id fun _ => data

def removeAll (fs : FileSystem) (cwd : Option Location) (path : Bytes) : FileSystem :=
  match fs.resolve cwd path with
  | .ok (place,some _) =>
    { fs with entries := fs.entries.filter fun (other,_) => !place.isPrefixOf other }
  | _ => fs

-- The names in a directory, in no order that means anything.
def names (fs : FileSystem) (dir : Location) : List Bytes :=
  fs.entries.filterMap fun (place,_) => if place.dropLast == dir then place.getLast? else none

def erase (fs : FileSystem) (place : Location) : FileSystem :=
  { fs with entries := fs.entries.filter fun (other,_) => !place.isPrefixOf other }

def move (fs : FileSystem) (place target : Location) : FileSystem :=
  { fs with entries := fs.entries.map fun (other,node) =>
      if place.isPrefixOf other then (target ++ other.drop place.length,node) else (other,node) }

def setMode (fs : FileSystem) (place : Location) (mode : Nat) : FileSystem :=
  { fs with entries := fs.entries.map fun
      | (other,.file f) => (other,.file (if other == place then { f with mode } else f))
      | other => other }

def withId? (fs : FileSystem) (id : Nat) : Option File :=
  fs.entries.findSome? fun
    | (_,.file f) => if f.id == id then some f else none
    | _ => none

end FileSystem

end ScriptLauncher
