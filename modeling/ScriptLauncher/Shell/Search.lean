import ScriptLauncher.Shell.State

namespace ScriptLauncher.Shell

-- Where the shell finds programs, and what it knows of a name: keyword, shorthand, function,
-- command of its own, or program.

def builtinNames : List Bytes :=
  [".",":","[","alias","bg","break","cd","chdir","command","continue","echo","eval","exec","exit",
    "export","false","fg","getopts","hash","jobs","kill","local","printf","pwd","read","readonly",
    "return","set","shift","test","times","trap","true","type","ulimit","umask","unalias","unset",
    "wait"].map text

-- Commands of the shell whose mistakes end it, and whose assignments stay.
def isSpecial (name : Bytes) : Bool := Depth.specialNames.contains name

-- The paths at which a program can be. An empty directory is the one at hand.
def places (searchPath name : Bytes) : List Bytes :=
  (Bytes.splitOn (byte ':') searchPath).map fun dir =>
    if dir.isEmpty then name else dir ++ Bytes.slash :: name

def findProgram (w : World) (searchPath name : Bytes) : Except Refusal Bytes :=
  let cwd := w.shell.process.cwd
  let rec first : List Bytes → Refusal → Except Refusal Bytes
    | [],how => .error how
    | path :: rest,how =>
      match w.system.files.stat cwd path with
      | .ok (.file f) => if f.mode &&& 0o111 == 0 then first rest .permission else .ok path
      | .ok .directory => first rest .permission
      | .error .noEntry | .error .notDirectory => first rest how
      | .error other => first rest other
  first (places searchPath name) .noEntry

def startMessage (name : Bytes) (how : Refusal) : Bytes :=
  name ++ text ": " ++ (match how with
    | .noEntry | .notDirectory => text "not found"
    | other => other.sentence)

def locate (name : Bytes) : Act (Except Refusal Bytes) := do
  let w ← get
  match w.shell.found.lookup name with
  | some path => return .ok path
  | none =>
    match findProgram w (w.shell.value (text "PATH")) name with
    | .ok path =>
      Act.modifyShell fun sh => { sh with found := sh.found ++ [(name,path)] }
      return .ok path
    | .error how => return .error how

def defaultSearchPath : Bytes := text "/usr/local/sbin:/usr/local/bin:/usr/sbin:/usr/bin:/sbin:/bin"

def describe (name : Bytes) (searchPath : Option Bytes) (inFull : Bool) : Act Nat := do
  let w ← get
  let say (full brief : Bytes) : Act Nat := do
    Act.out ((if inFull then name ++ full else brief) ++ text "\n")
    return 0
  if (Keyword.ofBytes? name).isSome then say (text " is a shell keyword") name
  else match w.shell.shorthands.lookup name with
    | some meaning =>
      say (text " is an alias for " ++ meaning) (text "alias " ++ name ++ text "=" ++ quote meaning)
    | none =>
      let missing : Act Nat := do
        if inFull then Act.out (name ++ text ": not found\n")
        return 127
      if name.contains Bytes.slash then
        if w.system.exists_ w.shell.process.cwd name then say (text " is " ++ name) name else missing
      else if searchPath.isNone && w.shell.functions.any (·.1 == name) then say (text " is a shell function") name
      else if builtinNames.contains name then
        say (text " is a " ++ (if isSpecial name then text "special " else []) ++ text "shell builtin") name
      else
        let known := if searchPath.isNone then w.shell.found.lookup name else none
        match known with
        | some path => say (text " is a tracked alias for " ++ path) path
        | none =>
          let found ← match searchPath with
            | some searchPath => pure (findProgram w searchPath name)
            | none => locate name
          match found with
          | .ok path => say (text " is " ++ path) path
          | .error _ => missing

end ScriptLauncher.Shell
