import ScriptLauncher.Shell.Run
import ScriptLauncher.Tool.Catalog

namespace ScriptLauncher.Shell

-- The shell as a program: how it begins, and what it carries out. A shell starts programs, and a
-- shell is a program, so the evaluator is tied to itself; each turn of that knot has a lower bound.

open Process (System Ending)
open Act

namespace Kernel

inductive Source where
  | command (script : Bytes)
  | file (path : Bytes)
  | input

-- Options at the start of a shell, and what is behind them. The flag tells that a script follows as
-- an argument.
def startOptions : Nat → Bool → List Bytes → Act (Bool × List Bytes)
  | 0,isCommand,args => return (isCommand,args)
  | n + 1,isCommand,args =>
    match args with
    | [] => return (isCommand,[])
    | word :: rest =>
      if word == text "-" || word == text "--" then return (isCommand,rest)
      else match word with
        | [] => return (isCommand,args)
        | sign :: letters =>
          if sign != byte '-' && sign != byte '+' then return (isCommand,args)
          else do
            let isOn := sign == byte '-'
            let (isCommand,rest) ← letters.foldlM (fun (state : Bool × List Bytes) b => do
              let (isCommand,rest) := state
              if b == byte 'c' then return (true,rest)
              else if b == byte 'l' then return state
              else if b == byte 'o' then
                match rest with
                | [] =>
                  Builtin.showSettings isOn
                  return state
                | name :: rest =>
                  Builtin.setNamed isOn name
                  return (isCommand,rest)
              else
                Builtin.setOption b isOn
                return state) (isCommand,rest)
            startOptions n isCommand rest

-- The variables of a shell that begins: those that it always has, and those of its environment that
-- have a proper name.
def initialVariables (p : Process) : List (Bytes × Variable) :=
  let own : List (Bytes × Variable) :=
    [("OPTIND",some "1"),("PS4",some "+ "),("PS2",some "> "),("PS1",some "# "),("PATH",none),
      ("MAILPATH",none),("MAIL",none),("IFS",some " \t\n")].map fun (name,value) =>
        (text name,{ value := value.map text })
  let start : Session := { process := p,root := p.number,name := [],vars := own }
  let start := start.put (text "PATH") { value := some defaultSearchPath }
  let taken := p.environment.foldl (fun (sh : Session) entry =>
    match Bytes.cut (byte '=') entry with
    | some (name,value) => if isName name then sh.put name { value := some value,isExported := true } else sh
    | none => sh) start
  let fixed := [("IFS",text " \t\n"),("OPTIND",text "1"),("PPID",Bytes.ofNat (p.number - 1))]
  (fixed.foldl (fun (sh : Session) (name,value) =>
    let old := (sh.var? (text name)).getD {}
    sh.put (text name) { old with value := some value }) taken).vars

-- Sets the name of the directory: the one that the environment tells, if it is right.
def setDirectory : Act Unit := do
  let w ← get
  let told := w.shell.value (text "PWD")
  let cwd := w.shell.process.cwd
  let isRight := Path.isAbsolute told && (match w.system.files.resolve cwd told with
    | .ok (place,some .directory) => some place == cwd
    | _ => false)
  let name ← if isRight then pure told
    else match cwd with
      | some place => pure (Host.locationPath place)
      | none => do
        warn (text "getcwd() failed: No such file or directory")
        pure []
  modifyShell fun sh => { sh with directory := name }
  assignWith (text "PWD") (some name) fun v => { v with isExported := true }

def arrange (args : List Bytes) : Act Source := do
  let (isCommand,rest) ← startOptions (args.length + 1) false args
  discard flush
  let readsInput := (← shell).option 's'
  match isCommand,rest with
  | true,[] => fail (text "-c requires an argument")
  | true,script :: rest =>
    modifyShell fun sh => { sh with name := rest.headD sh.name,arguments := rest.drop 1 }
    return .command script
  | false,[] =>
    Builtin.setLetter (byte 's') true
    return .input
  | false,path :: rest =>
    if readsInput then
      modifyShell fun sh => { sh with arguments := path :: rest }
      return .input
    else
      modifyShell fun sh => { sh with arguments := rest }
      return .file path

-- Carries out all that can be read. Bytes of zero are no part of a script.
def scriptOf (k : Kernel) (content : Bytes) : Act Unit := do
  let content := content.filter (· != 0)
  discard (k.evaluate {} content true)

def shellProgram (k : Kernel) (p : Process) (s : System) : Ending × System :=
  let name := if p.arguments.isEmpty then text "sh" else p.name
  let sh : Session := { process := p,root := p.number,name,vars := initialVariables p }
  let act : Act Unit := do
    setDirectory
    match ← arrange p.operands with
    | .command script =>
      let readsInput := (← shell).option 's'
      discard (k.evaluate {} script false)
      if readsInput then k.scriptOf (← input)
    | .input => k.scriptOf (← input)
    | .file path =>
      let w ← get
      match w.system.open_ p path { reads := true } with
      | .error how =>
        fail (text "cannot open " ++ path ++ text ": " ++
          (if how == .noEntry || how == .notDirectory then text "No such file" else how.sentence))
      | .ok (id,s) =>
        let content := match s.read id 0xFFFFFFFF with
          | .ok (data,_) => data
          | .error _ => []
        modifyShell fun sh => { sh with name := path }
        k.scriptOf content
  k.conclude act ⟨s,sh⟩
where
  input : Act Bytes := do
    let w ← get
    match w.shell.process.streams.channel? 0 with
    | none => return []
    | some id =>
      match w.system.read id 0xFFFFFFFF with
      | .ok (data,s) =>
        setSystem s
        return data
      | .error _ => return []

-- A program with a name: the shell, or one of the host's others.
def launch (k : Kernel) (p : Process) (name : Bytes) (s : System) : Ending × System :=
  if name == text "sh" || name == text "dash" then k.shellProgram p s
  else Tool.start k.execute p name s

def ofBound : Nat → Kernel
  | 0 =>
    { run := fun _ _ => throw .exit
      execute := fun _ _ s => (.status 126,s)
      bound := 0
      output := fun _ => return ([],0) }
  | n + 1 =>
    { run := fun s place w => (ofBound n).statement s place w
      execute := fun p name s => (ofBound n).launch p name s
      bound := n
      output := fun s w => (ofBound n).collect s w }

end Kernel

end ScriptLauncher.Shell
