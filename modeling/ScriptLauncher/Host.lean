import ScriptLauncher.Text.Quoted
import ScriptLauncher.FileSystem
import ScriptLauncher.Environment

namespace ScriptLauncher

-- The host a launcher runs on: files, a working directory and an environment. Reading and looking
-- up give faults with the wording of the action that failed.

structure Host where
  files : FileSystem
  -- None once the directory has been removed.
  cwd : Option Location
  vars : Variables

namespace Host

def refused (action path : Bytes) (how : Refusal) : Fault :=
  .context (action ++ [Bytes.space] ++ path ++ text ": ") (.of (.refused how))

def stat (host : Host) (path : Bytes) : Except Refusal Node := host.files.stat host.cwd path

def isFile (host : Host) (path : Bytes) : Bool :=
  match host.stat path with
  | .ok (.file _) => true
  | _ => false

def read (host : Host) (path : Bytes) : Except Fault Bytes :=
  match host.stat path with
  | .ok (.file f) => .ok f.data
  | .ok .directory => .error (refused (text "read") path .isDirectory)
  | .error how => .error (refused (text "open") path how)

def locationPath (place : Location) : Bytes := Path.render true place

-- The absolute path of the working directory. The variable `PWD` decides its spelling where it
-- leads to the same directory.
def workingDirectory (host : Host) : Except Fault Bytes :=
  match host.cwd with
  | none => .error (.context (text "getwd: ") (.of (.refused .noEntry)))
  | some place =>
    let spelled := host.vars.value (text "PWD")
    match Path.isAbsolute spelled,host.files.resolve none spelled with
    | true,.ok (other,some .directory) =>
      if other == place then .ok spelled else .ok (locationPath place)
    | _,_ => .ok (locationPath place)

def absolute (host : Host) (path : Bytes) : Except Fault Bytes :=
  if Path.isAbsolute path then .ok (Path.clean path)
  else host.workingDirectory.map fun dir => Path.join [dir,path]

def getenv (host : Host) (name : Bytes) : Bytes := host.vars.value name

-- Puts a file in place together with the directories above it, as far as that goes.
def put (host : Host) (path data : Bytes) (mode : Nat) : Host :=
  let files := FileSystem.left (host.files.makeDirectories host.cwd (Path.parent path))
  { host with files := (files.write host.cwd path data mode).toOption.getD files }

def makeDirectory (host : Host) (path : Bytes) : Host :=
  { host with files := FileSystem.left (host.files.makeDirectories host.cwd path) }

-- Removes what stands at a path and all below it. A working directory that goes with it is gone for
-- good.
def remove (host : Host) (path : Bytes) : Host :=
  let files := host.files.removeAll host.cwd path
  { host with
    files
    cwd := host.cwd.filter fun place => (files.get? place).isSome }

def changeDirectory (host : Host) (path : Bytes) : Host :=
  match host.files.resolve host.cwd path with
  | .ok (place,some .directory) => { host with cwd := some place }
  | _ => host

end Host

end ScriptLauncher
