import ScriptLauncher.Process.System

namespace ScriptLauncher.Process.Image

-- What can be carried out: a number of programs in the usual directories, and scripts that name
-- their interpreter in their first line.

def programNames : List Bytes :=
  ["sh","dash","[","basename","cat","chmod","cp","cut","dirname","echo","env","expr","false",
    "grep","head","ls","mkdir","mv","printenv","printf","pwd","rm","rmdir","sed","seq","sleep","sort","tac",
    "tail","tee","test","touch","tr","true","uniq","wc"].map text

def programDirectories : List Location := [[text "usr",text "bin"],[text "bin"]]

def standardDirectories : List Bytes :=
  ["/dev","/etc","/home","/opt","/proc","/root","/run","/sbin","/sys","/tmp","/usr/lib","/usr/local",
    "/usr/sbin","/usr/share","/var/log","/var/tmp"].map text

def equip (host : Host) : Host :=
  let furnished := standardDirectories.foldl Host.makeDirectory host
  programDirectories.foldl (fun (host : Host) dir =>
    programNames.foldl (fun (host : Host) name =>
      host.put (Host.locationPath (dir ++ [name])) [] 0o755) host) furnished

def isBlank (b : UInt8) : Bool := b == 32 || b == 9

def headSize : Nat := 256

-- The line that names an interpreter. A line that is cut off has to hold the end of the name;
-- behind the end of a short file there are zeros.
def headLine? (data : Bytes) : Option Bytes :=
  let head := data.take headSize
  match Bytes.after? (text "#!") head with
  | none => none
  | some rest =>
    if rest.contains Bytes.newline then some (rest.takeWhile (· != Bytes.newline))
    else
      let line := (rest ++ List.replicate (headSize - head.length) 0).take (headSize - 3)
      let name := line.dropWhile isBlank
      if name.any fun b => isBlank b || b == 0 then some line else none

-- The interpreter that the first line of a file names, and its one option, which is all the rest of
-- the line.
def interpreter? (data : Bytes) : Option (Bytes × List Bytes) :=
  match headLine? data with
  | none => none
  | some line =>
    let line := ((line.reverse.dropWhile isBlank).reverse).dropWhile isBlank
    let name := line.takeWhile fun b => !isBlank b && b != 0
    let option := ((line.drop name.length).dropWhile isBlank).takeWhile (· != 0)
    if line.isEmpty then none else some (name,if option.isEmpty then [] else [option])

def program? (place : Location) : Option Bytes :=
  place.getLast?.filter fun name =>
    programDirectories.contains place.dropLast && programNames.contains name

structure Loaded where
  program : Bytes
  arguments : List Bytes

-- What is carried out when a path is started with some arguments. An interpreter can be a script in
-- its turn, but not without end.
def load (files : FileSystem) (cwd : Option Location) : Nat → Bytes → List Bytes → Except Refusal Loaded
  | 0,_,_ => .error .tooManyLinks
  | n + 1,path,arguments =>
    match files.resolve cwd path with
    | .error how => .error how
    | .ok (_,none) => .error .noEntry
    | .ok (_,some .directory) => .error .permission
    | .ok (place,some (.file f)) =>
      if f.mode &&& 0o111 == 0 then .error .permission
      else match program? place with
        | some program => .ok ⟨program,arguments⟩
        | none =>
          match interpreter? f.data with
          | none => .error .noFormat
          | some (interpreter,options) =>
            -- No name at all means the directory at hand, which cannot be carried out.
            if interpreter.isEmpty then .error .permission
            else load files cwd n interpreter (interpreter :: options ++ path :: arguments.drop 1)

-- The longest argument that a process can have, and the most that all of them can take up.
def maxArgument : Nat := 131071
def maxArguments : Nat := 2097152

def fits (path : Bytes) (arguments environment : List Bytes) : Bool :=
  let all := arguments ++ environment
  all.all (fun s => s.length ≤ maxArgument) &&
    (path :: all).foldl (fun n s => n + s.length + 1) (8 * all.length) ≤ maxArguments

def maxDepth : Nat := 6

end ScriptLauncher.Process.Image
