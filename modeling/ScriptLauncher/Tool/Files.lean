import ScriptLauncher.Process.Permissions
import ScriptLauncher.Tool.Surroundings

namespace ScriptLauncher.Tool.Files

-- Programs that list, make, move and remove files.

open Surroundings (lastName)

def at_ (path : Bytes) : Work (Except Refusal (Location × Node)) := do
  match Process.System.device? path,← Work.resolve path with
  | some _,_ => return .ok ([text "dev",text "null"],.file ⟨0,0o666,[]⟩)
  | none,.ok (place,some node) => return .ok (place,node)
  | none,.ok (_,none) => return .error .noEntry
  | none,.error how => return .error how

def isDirectory (path : Bytes) : Work Bool := do
  match ← at_ path with
  | .ok (_,.directory) => return true
  | _ => return false

def permitted (mode : Nat) : Work Nat := do return mode - (mode &&& (← Work.process).mask)

def joined (dir name : Bytes) : Bytes :=
  if dir.getLast? == some Bytes.slash then dir ++ name else dir ++ text "/" ++ name

def markOf (options : Options) (node : Node) : Bytes :=
  match node with
  | .directory => if options.has 'p' || options.has 'F' then text "/" else []
  | .file f => if options.has 'F' && f.mode &&& 0o111 != 0 then text "*" else []

def listing : Work Unit := do
  let spec : Spec :=
    { plain := "aA1drpF",status := 2
      long := [("all",'a'),("almost-all",'A'),("directory",'d'),("reverse",'r'),("classify",'F')] }
  let (options,operands) ← spec.parse (← Work.operands)
  let ordered (names : List Bytes) : List Bytes :=
    let sorted := names.mergeSort Bytes.le
    if options.has 'r' then sorted.reverse else sorted
  let paths := ordered (if operands.isEmpty then [Path.dot] else operands)
  let found ← paths.mapM fun path => do
    match ← at_ path with
    | .ok (place,node) => return [(path,place,node)]
    | .error how =>
      Work.complain (text "cannot access " ++ quoted path ++ text ": " ++ how.sentence) 2
      return []
  let isListed (node : Node) : Bool := match node with
    | .directory => !options.has 'd'
    | .file _ => false
  let (dirs,others) := found.flatten.partition fun (_,_,node) => isListed node
  others.forM fun (path,_,node) => Work.putLine (path ++ markOf options node)
  let files ← Work.files
  discard (dirs.foldlM (fun (isFirst : Bool) (path,place,_) => do
    if 1 < paths.length then
      Work.put ((if isFirst then [] else text "\n") ++ path ++ text ":\n")
    let names := (files.names place).eraseDups.filter fun name =>
      options.has 'a' || options.has 'A' || name.head? != some (byte '.')
    let shown := ordered ((if options.has 'a' then [Path.dot,Path.dotDot] else []) ++ names)
    shown.forM fun name => do
      let node := (files.get? (place ++ [name])).getD .directory
      Work.putLine (name ++ markOf options node)
    return false) others.isEmpty)

def makeOne (path : Bytes) : Work Unit := do
  let refuse (how : Refusal) : Work Unit :=
    Work.complain (text "cannot create directory " ++ quoted path ++ text ": " ++ how.sentence)
  match ← Work.resolve path with
  | .error how => refuse how
  | .ok (_,some _) => refuse .exists_
  | .ok (place,none) => Work.setFiles ((← Work.files).set place .directory)

def makeDirectories : Work Unit := do
  let spec : Spec :=
    { plain := "pv",valued := "m",long := [("parents",'p'),("verbose",'v'),("mode",'m')] }
  let (options,operands) ← spec.parse (← Work.operands)
  if operands.isEmpty then Work.misused (text "missing operand")
  operands.forM fun path => do
    if !options.has 'p' then makeOne path
    else match (← Work.files).makeDirectories (← Work.process).cwd path with
      | .ok files => Work.setFiles files
      | .error (how,files) =>
        Work.setFiles files
        -- The first file on the way is named.
        let parts := Bytes.splitOn Bytes.slash path
        let ways := (List.range parts.length).map fun n => Bytes.join [Bytes.slash] (parts.take (n + 1))
        let blocked ← ways.filterM fun way => do
          match ← at_ way with
          | .ok (_,.file _) => return true
          | _ => return false
        let name := blocked.headD path
        let how := if how == .notDirectory && name == path then .exists_ else how
        Work.complain (text "cannot create directory " ++ quoted name ++ text ": " ++ how.sentence)

def removeDirectories : Work Unit := do
  let spec : Spec := { plain := "pv",long := [("parents",'p'),("verbose",'v')] }
  let (_,operands) ← spec.parse (← Work.operands)
  if operands.isEmpty then Work.misused (text "missing operand")
  operands.forM fun path => do
    let refuse (how : Refusal) : Work Unit :=
      Work.complain (text "failed to remove " ++ quoted path ++ text ": " ++ how.sentence)
    match ← at_ path with
    | .error how => refuse how
    | .ok (_,.file _) => refuse .notDirectory
    | .ok (place,.directory) =>
      let files ← Work.files
      if lastName path == Path.dot then refuse .invalidArgument
      else if !(files.names place).isEmpty then refuse .notEmpty
      else Work.setFiles (files.erase place)

def remove : Work Unit := do
  let spec : Spec :=
    { plain := "rRfdvi",long := [("recursive",'r'),("force",'f'),("dir",'d'),("verbose",'v')] }
  let (options,operands) ← spec.parse (← Work.operands)
  let isForced := options.has 'f'
  let isDeep := options.has 'r' || options.has 'R'
  if operands.isEmpty && !isForced then Work.misused (text "missing operand")
  operands.forM fun path => do
    let refuse (how : Refusal) : Work Unit :=
      Work.complain (text "cannot remove " ++ quoted path ++ text ": " ++ how.sentence)
    match ← at_ path with
    | .error how => if !(isForced && (how == .noEntry || how == .notDirectory)) then refuse how
    | .ok (place,.file _) => Work.setFiles ((← Work.files).erase place)
    | .ok (place,.directory) =>
      let files ← Work.files
      let name := lastName path
      if isDeep && (name == Path.dot || name == Path.dotDot) then
        Work.complain (text "refusing to remove '.' or '..' directory: skipping " ++ quoted path)
      else if isDeep || (options.has 'd' && (files.names place).isEmpty) then Work.setFiles (files.erase place)
      else refuse (if options.has 'd' then .notEmpty else .isDirectory)

def touch : Work Unit := do
  let spec : Spec := { plain := "acm",valued := "dtr",long := [("no-create",'c'),("date",'d')] }
  let (options,operands) ← spec.parse (← Work.operands)
  if operands.isEmpty then Work.misused (text "missing file operand")
  operands.forM fun path => do
    match ← Work.resolve path with
    | .ok (_,some _) => return
    | .ok (_,none) =>
      if !options.has 'c' then
        match (← Work.files).openFile (← Work.process).cwd path (← permitted 0o666) with
        | .ok (_,files) => Work.setFiles files
        | .error how => Work.complain (text "cannot touch " ++ quoted path ++ text ": " ++ how.sentence)
    | .error how =>
      if (Process.System.device? path).isNone then
        Work.complain (text "cannot touch " ++ quoted path ++ text ": " ++ how.sentence)

-- The sources and the target of a copy or a move; the target of each source is given with it.
def targets (operands : List Bytes) : Work (List (Bytes × Bytes)) := do
  match operands.reverse with
  | [] => Work.misused (text "missing file operand")
  | [only] => Work.misused (text "missing destination file operand after " ++ quoted only)
  | target :: others =>
    let sources := others.reverse
    if ← isDirectory target then
      return sources.map fun path => (path,joined target (lastName path))
    else if 1 < sources.length then
      match ← at_ target with
      | .error how => Work.stop (text "target " ++ quoted target ++ text ": " ++ how.sentence)
      | .ok _ => Work.stop (text "target " ++ quoted target ++ text ": Not a directory")
    else return sources.map fun path => (path,target)

def copyTree (files : FileSystem) (place target : Location) (mode : Nat → Nat) : FileSystem :=
  let inside := files.entries.filter fun (other,_) => place.isPrefixOf other
  inside.foldl (fun (fs : FileSystem) (other,node) =>
    let there := target ++ other.drop place.length
    match node with
    | .directory => fs.set there .directory
    | .file f => { fs.set there (.file ⟨fs.fresh,mode f.mode,f.data⟩) with fresh := fs.fresh + 1 }) files

def copyOne (options : Options) (path target : Bytes) : Work Unit := do
  let isDeep := options.has 'r' || options.has 'R' || options.has 'a'
  let p ← Work.process
  match ← at_ path with
  | .error how => Work.complain (text "cannot stat " ++ quoted path ++ text ": " ++ how.sentence)
  | .ok (place,.directory) =>
    if !isDeep then Work.complain (text "-r not specified; omitting directory " ++ quoted path)
    else match ← Work.resolve target with
      | .ok (there,none) =>
        Work.setFiles (copyTree (← Work.files) place there fun mode => mode - (mode &&& p.mask))
      | .ok (there,some .directory) =>
        Work.setFiles (copyTree (← Work.files) place there fun mode => mode - (mode &&& p.mask))
      | .ok (_,some (.file _)) =>
        Work.complain (text "cannot overwrite non-directory " ++ quoted target ++ text " with directory " ++ quoted path)
      | .error how => Work.complain (text "cannot create directory " ++ quoted target ++ text ": " ++ how.sentence)
  | .ok (_,.file f) =>
    match ← Work.resolve target with
    | .ok (_,some .directory) =>
      Work.complain (text "cannot overwrite directory " ++ quoted target ++ text " with non-directory")
    | .ok (_,some (.file g)) =>
      if f.id == g.id then Work.complain (quoted path ++ text " and " ++ quoted target ++ text " are the same file")
      else if !options.has 'n' then Work.setFiles ((← Work.files).modify g.id fun _ => f.data)
    | .ok (_,none) =>
      match (← Work.files).write p.cwd target f.data (← permitted f.mode) with
      | .ok files => Work.setFiles files
      | .error how => Work.complain (text "cannot create regular file " ++ quoted target ++ text ": " ++ how.sentence)
    | .error how => Work.complain (text "cannot create regular file " ++ quoted target ++ text ": " ++ how.sentence)

def copySpec : Spec :=
  { plain := "rRafpnvui"
    long := [("recursive",'r'),("archive",'a'),("force",'f'),("no-clobber",'n'),("verbose",'v')] }

def copy : Work Unit := do
  let (options,operands) ← copySpec.parse (← Work.operands)
  (← targets operands).forM fun (path,target) => copyOne options path target

def moveOne (options : Options) (path target : Bytes) : Work Unit := do
  let refuse (how : Refusal) : Work Unit :=
    Work.complain (text "cannot move " ++ quoted path ++ text " to " ++ quoted target ++ text ": " ++ how.sentence)
  match ← at_ path with
  | .error how => Work.complain (text "cannot stat " ++ quoted path ++ text ": " ++ how.sentence)
  | .ok (place,node) =>
    match ← Work.resolve target,node with
    | .error how,_ => refuse how
    | .ok (there,none),_ =>
      if place.isPrefixOf there then
        Work.complain (text "cannot move " ++ quoted path ++ text " to a subdirectory of itself, " ++ quoted target)
      else Work.setFiles ((← Work.files).move place there)
    | .ok (there,some old),_ =>
      if place == there then Work.complain (quoted path ++ text " and " ++ quoted target ++ text " are the same file")
      else if options.has 'n' then return
      else match node,old with
        | .directory,.file _ =>
          Work.complain (text "cannot overwrite non-directory " ++ quoted target ++ text " with directory " ++ quoted path)
        | .file _,.directory =>
          Work.complain (text "cannot overwrite directory " ++ quoted target ++ text " with non-directory")
        | .directory,.directory =>
          if !((← Work.files).names there).isEmpty then refuse .notEmpty
          else Work.setFiles (((← Work.files).erase there).move place there)
        | .file _,.file _ => Work.setFiles (((← Work.files).erase there).move place there)

def move : Work Unit := do
  let (options,operands) ← copySpec.parse (← Work.operands)
  (← targets operands).forM fun (path,target) => moveOne options path target

def changeMode : Work Unit := do
  let args ← Work.operands
  -- A mode can begin with a dash too.
  let isMode (word : Bytes) : Bool :=
    word.head? == some (byte '-') && (Process.Permissions.change? false 0 word 0).isSome
  let spec : Spec := { plain := "Rvcf",endsEarly := true }
  let early := args.takeWhile fun word => word.head? == some (byte '-') && !isMode word
  let (_,others) ← spec.parse early
  match others ++ args.drop early.length with
  | [] => Work.misused (text "missing operand")
  | [word] => Work.misused (text "missing operand after " ++ cited word)
  | word :: paths =>
    let mask := (← Work.process).mask
    let changed (mode : Nat) : Option Nat :=
      match Process.Permissions.octal? word with
      | some n => if n < 4096 then some n else none
      | none => Process.Permissions.change? false mask word mode
    if (changed 0).isNone then Work.misused (text "invalid mode: " ++ cited word)
    else paths.forM fun path => do
      match ← at_ path with
      | .error how => Work.complain (text "cannot access " ++ quoted path ++ text ": " ++ how.sentence)
      | .ok (_,.directory) => return
      | .ok (place,.file f) =>
        Work.setFiles ((← Work.files).setMode place ((changed f.mode).getD f.mode))

end ScriptLauncher.Tool.Files
