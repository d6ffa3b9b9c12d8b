import ScriptLauncher.Process.Image
import ScriptLauncher.Tool.Work

namespace ScriptLauncher.Tool

-- Programs that show or change what surrounds a process: the environment, the directory, the time,
-- and the names of paths.

open Process (System Ending)

namespace Surroundings

def nothing (status : Nat) : Work Unit := Work.fails status

def directory : Work Unit := do
  let spec : Spec := { plain := "LP",long := [("logical",'L'),("physical",'P')] }
  let (options,operands) ← spec.parse (← Work.operands)
  if !operands.isEmpty then Work.remark (text "ignoring non-option arguments")
  let p ← Work.process
  let told := (p.environment.findSome? (Bytes.after? (text "PWD="))).getD []
  let isLogical := (options.getLast?.map (·.1)) == some (byte 'L')
  let isFixed := (Bytes.splitOn Bytes.slash told).all fun part => part != Path.dot && part != Path.dotDot
  let leads := match (← Work.files).resolve p.cwd told with
    | .ok (place,some .directory) => some place == p.cwd
    | _ => false
  if isLogical && Path.isAbsolute told && isFixed && leads then Work.putLine told
  else match p.cwd with
    | some place => Work.putLine (Host.locationPath place)
    | none => Work.stop (text "couldn't find directory entry in '..' with matching i-node")

def variables_ : Work Unit := do
  let spec : Spec := { plain := "0",long := [("null",'0')],endsEarly := true,status := 2 }
  let (options,names) ← spec.parse (← Work.operands)
  let end_ : Bytes := if options.has '0' then [0] else [Bytes.newline]
  let entries := (← Work.process).environment
  if names.isEmpty then entries.forM fun entry => Work.put (entry ++ end_)
  else names.forM fun name => do
    let values := if name.contains (byte '=') || name.isEmpty then []
      else entries.filterMap fun entry => Bytes.after? (name ++ text "=") entry
    if values.isEmpty then Work.fails 1
    values.forM fun value => Work.put (value ++ end_)

def lastName (path : Bytes) : Bytes :=
  let trimmed := (path.reverse.dropWhile (· == Bytes.slash)).reverse
  if trimmed.isEmpty then path.take 1
  else (trimmed.reverse.takeWhile (· != Bytes.slash)).reverse

def withoutEnding (ending name : Bytes) : Bytes :=
  if ending.length < name.length && ending.isSuffixOf name then name.take (name.length - ending.length) else name

def baseNames : Work Unit := do
  let spec : Spec :=
    { plain := "az",valued := "s",endsEarly := true
      long := [("multiple",'a'),("suffix",'s'),("zero",'z')] }
  let (options,operands) ← spec.parse (← Work.operands)
  let end_ : Bytes := if options.has 'z' then [0] else [Bytes.newline]
  let ending := (options.value? 's').getD []
  match operands with
  | [] => Work.misused (text "missing operand")
  | path :: rest =>
    if options.has 'a' || options.has 's' then
      operands.forM fun path => Work.put (withoutEnding ending (lastName path) ++ end_)
    else match rest with
      | [] => Work.put (lastName path ++ end_)
      | [ending] => Work.put (withoutEnding ending (lastName path) ++ end_)
      | _ :: extra :: _ => Work.misused (text "extra operand " ++ cited extra)

def parentOf (path : Bytes) : Bytes :=
  let isSlash (b : UInt8) : Bool := b == Bytes.slash
  let trimmed := (path.reverse.dropWhile isSlash).reverse
  let before := trimmed.reverse.dropWhile fun b => !isSlash b
  let parent := (before.dropWhile isSlash).reverse
  if !parent.isEmpty then parent
  else if Path.isAbsolute path then [Bytes.slash]
  else Path.dot

def parents : Work Unit := do
  let spec : Spec := { plain := "z",endsEarly := true,long := [("zero",'z')] }
  let (options,operands) ← spec.parse (← Work.operands)
  if operands.isEmpty then Work.misused (text "missing operand")
  let end_ : Bytes := if options.has 'z' then [0] else [Bytes.newline]
  operands.forM fun path => Work.put (parentOf path ++ end_)

def duration? (word : Bytes) : Option Nat :=
  let isDigit (b : UInt8) : Bool := 48 ≤ b && b ≤ 57
  let number (s : Bytes) : Nat := s.foldl (fun n b => n * 10 + (b.toNat - 48)) 0
  let whole := word.takeWhile isDigit
  let rest := word.drop whole.length
  let (fraction,rest) := match rest with
    | 46 :: behind => (behind.takeWhile isDigit,behind.dropWhile isDigit)
    | _ => ([],rest)
  let seconds : Option Nat := match rest with
    | [] => some 1
    | [b] => [(byte 's',1),(byte 'm',60),(byte 'h',3600),(byte 'd',86400)].lookup b
    | _ => none
  if whole.isEmpty && fraction.isEmpty then none
  else
    let micros := (fraction ++ List.replicate 6 48).take 6
    seconds.map fun unit => (number whole * 1000000 + number micros) * unit

def pause : Work Unit := do
  let spec : Spec := { plain := "" }
  let (_,operands) ← spec.parse (← Work.operands)
  if operands.isEmpty then Work.misused (text "missing operand")
  let bad := operands.filter fun word => (duration? word).isNone
  bad.forM fun word => Work.remark (text "invalid time interval " ++ cited word)
  if !bad.isEmpty then
    discard (Work.write 2 (text "Try '" ++ (← Work.process).name ++ text " --help' for more information.\n"))
    throw (.status 1)
  let total := (operands.filterMap duration?).foldl (· + ·) 0
  modify fun b => { b with system := { b.system with clock := b.system.clock + total } }

def withEntry (entry : Bytes) (environment : List Bytes) : List Bytes :=
  let name := entry.takeWhile (· != byte '=') ++ text "="
  let isSame (other : Bytes) : Bool := name.isPrefixOf other
  match environment.findIdx? isSame with
  | some place => environment.set place entry
  | none => environment ++ [entry]

def wordsOf : Nat → Option Bytes → Bytes → List Bytes
  | 0,_,_ => []
  | _ + 1,word,[] => word.toList
  | n + 1,word,b :: rest =>
    let sofar := word.getD []
    if b == 32 || (9 ≤ b && b ≤ 13) then word.toList ++ wordsOf n none rest
    else if b == byte '\'' || b == byte '"' then
      let inside := rest.takeWhile (· != b)
      wordsOf n (some (sofar ++ inside)) (rest.drop (inside.length + 1))
    else if b == 92 then wordsOf n (some (sofar ++ rest.take 1)) (rest.drop 1)
    else wordsOf n (some (sofar ++ [b])) rest

def unfolded (args : List Bytes) : List Bytes :=
  let whole (s : Bytes) : List Bytes := wordsOf (s.length + 1) none s
  match args with
  | first :: rest =>
    match [text "-S",text "-vS",text "--split-string="].findSome? fun mark => Bytes.after? mark first with
    | some [] => match rest with
      | second :: others => whole second ++ others
      | [] => args
    | some s => whole s ++ rest
    | none => args
  | [] => []

abbrev Execute := Process → Bytes → System → Ending × System

def candidates (environment : List Bytes) (name : Bytes) : List Bytes :=
  if name.contains Bytes.slash then [name]
  else
    let searchPath := (environment.findSome? (Bytes.after? (text "PATH="))).getD (text "/bin:/usr/bin")
    (Bytes.splitOn (byte ':') searchPath).map fun dir => if dir.isEmpty then name else dir ++ text "/" ++ name

def load (files : FileSystem) (p : Process) (name : Bytes) : Except Refusal Process.Image.Loaded :=
  let rec first : List Bytes → Refusal → Except Refusal Process.Image.Loaded
    | [],how => .error how
    | path :: rest,how =>
      match Process.Image.load files p.cwd Process.Image.maxDepth path p.arguments with
      | .ok loaded => .ok loaded
      | .error .noFormat => .ok ⟨text "sh",text "/bin/sh" :: path :: p.arguments.drop 1⟩
      | .error .permission => first rest .permission
      | .error .noEntry => first rest how
      | .error .notDirectory => if name.contains Bytes.slash then .error .notDirectory else first rest how
      | .error other => .error other
  if name.isEmpty then .error .noEntry else first (candidates p.environment name) .noEntry

def become (execute : Execute) (p : Process) : Work Unit := do
  let name := p.name
  match load (← Work.files) p name with
  | .error how =>
    Work.remark (cited name ++ text ": " ++ how.sentence)
    if how == .noEntry && name.contains Bytes.space then
      Work.remark (text "use -[v]S to pass options in shebang lines")
    throw (.status (if how == .noEntry then 127 else 126))
  | .ok loaded =>
    discard Work.flush
    let b ← get
    let (ending,system) := execute { p with arguments := loaded.arguments } loaded.program b.system
    set { b with system }
    throw ending

def environment (execute : Execute) : Work Unit := do
  let spec : Spec :=
    { plain := "i0v",valued := "uC",endsEarly := true,status := 125
      long := [("ignore-environment",'i'),("null",'0'),("unset",'u'),("chdir",'C'),("debug",'v')] }
  let (options,operands) ← spec.parse (unfolded (← Work.operands))
  let p ← Work.process
  let isBare := operands.head? == some (text "-")
  let operands := if isBare then operands.drop 1 else operands
  let start := if isBare || options.has 'i' then [] else p.environment
  let removed := (options.filter (·.1 == byte 'u')).map (·.2)
  removed.forM fun name => do
    if name.isEmpty || name.contains (byte '=') then
      Work.stop (text "cannot unset " ++ cited name ++ text ": Invalid argument") 125
  let kept := start.filter fun entry => !removed.any fun name => (name ++ text "=").isPrefixOf entry
  let entries := operands.takeWhile (·.contains (byte '='))
  let command := operands.drop entries.length
  let environment := entries.foldl (fun e entry => withEntry entry e) kept
  if command.isEmpty then
    if options.has 'C' then Work.misused (text "must specify command with --chdir (-C)") 125
    environment.forM fun entry => Work.put (entry ++ [if options.has '0' then 0 else Bytes.newline])
  else
    if options.has '0' then Work.misused (text "cannot specify --null (-0) with command") 125
    let cwd ← match options.value? 'C' with
      | none => pure p.cwd
      | some dir =>
        let refuse (how : Refusal) : Work (Option Location) :=
          Work.stop (text "cannot change directory to " ++ quoted dir ++ text ": " ++ how.sentence) 125
        match ← Work.resolve dir with
        | .ok (place,some .directory) => pure (some place)
        | .ok (_,some (.file _)) => refuse .notDirectory
        | .ok (_,none) => refuse .noEntry
        | .error how => refuse how
    become execute { p with arguments := command,environment,cwd }

end Surroundings

end ScriptLauncher.Tool
