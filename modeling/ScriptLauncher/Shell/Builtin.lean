import ScriptLauncher.Process.Permissions
import ScriptLauncher.Shell.Condition
import ScriptLauncher.Shell.Fields
import ScriptLauncher.Shell.Print
import ScriptLauncher.Shell.Search

namespace ScriptLauncher.Shell

-- The commands that the shell has in itself, but for those that carry out statements. Each takes
-- its arguments and gives its status.

open Process (Signal.name Signal.ofWord? Ending)

namespace Act

abbrev Options := List (UInt8 × Bytes)

-- The options at the front of some arguments. The letters that are allowed are given, those with an
-- argument behind them also in the second text.
def options (plain valued : Bytes) : Nat → List Bytes → Act (Options × List Bytes)
  | 0,args => return ([],args)
  | n + 1,args =>
    match args with
    | (45 :: first :: more) :: rest =>
      if first == 45 && more.isEmpty then return ([],rest)
      else
        let rec letters : Bytes → List Bytes → Act (Options × List Bytes)
          | [],rest => return ([],rest)
          | b :: s,rest => do
            if plain.contains b then
              let (found,rest) ← letters s rest
              return ((b,[]) :: found,rest)
            else if valued.contains b then
              match s,rest with
              | [],[] => fail (text "No arg for -" ++ [b] ++ text " option")
              | [],value :: rest => return ([(b,value)],rest)
              | _,_ => return ([(b,s)],rest)
            else fail (text "Illegal option -" ++ [b])
        do
          let (found,rest) ← letters (first :: more) rest
          let (others,rest) ← options plain valued n rest
          return (found ++ others,rest)
    | _ => return ([],args)

def operands (args : List Bytes) : Act (List Bytes) := do
  return (← options [] [] (args.length + 1) args).2

end Act

namespace Builtin

open Act

def leaveLoop (skip : Skip) (args : List Bytes) : Act Nat := do
  let n ← match args with
    | [] => pure 1
    | word :: _ => do
      let n ← number word
      if n == 0 then badNumber word
      pure n
  let n := min n (← shell).loops
  if 0 < n then modifyShell fun sh => { sh with skip,skipCount := n }
  return 0

-- A path without dots. Two slashes at its front are more than one.
def withoutDots (path : Bytes) : Bytes :=
  let slashes := path.takeWhile (· == Bytes.slash)
  if slashes.length == 2 then Bytes.slash :: Path.clean path else Path.clean path

-- Goes to a directory by its name; dots are taken away first.
def enter (path : Bytes) (isPhysical : Bool) : Act Bool := do
  let w ← get
  let before := w.shell.directory
  let target := if isPhysical || path.isEmpty then path
    else if Path.isAbsolute path then withoutDots path
    else if before.getLast? == some Bytes.slash then withoutDots (before ++ path)
    else if Path.isAbsolute before then withoutDots (before ++ Bytes.slash :: path)
    else path
  match w.system.files.resolve w.shell.process.cwd target with
  | .ok (place,some .directory) =>
    let name := if isPhysical || !Path.isAbsolute target then Host.locationPath place else target
    modifyShell fun sh => { sh with process := { sh.process with cwd := some place },directory := name }
    assignWith (text "OLDPWD") (some before) fun v => { v with isExported := true }
    assignWith (text "PWD") (some name) fun v => { v with isExported := true }
    return true
  | _ => return false

def isFixed (path : Bytes) : Bool :=
  Path.isAbsolute path || (Path.components path).head? == some Path.dot ||
    (Path.components path).head? == some Path.dotDot

def changeDirectory (args : List Bytes) : Act Nat := do
  let (found,rest) ← options (text "LP") [] (args.length + 1) args
  let isPhysical := (found.getLast?.map (·.1)) == some (byte 'P')
  let sh ← shell
  let (target,shows) := match rest with
    | [] => (sh.value (text "HOME"),false)
    | first :: _ => if first == text "-" then (sh.value (text "OLDPWD"),true) else (first,false)
  let wanted := if target.isEmpty then Path.dot else target
  let candidates :=
    if isFixed wanted then [(wanted,false)]
    else
      ((sh.value? (text "CDPATH")).map fun dirs =>
        (Bytes.splitOn (byte ':') dirs).map fun dir =>
          if dir.isEmpty then (wanted,false) else (dir ++ Bytes.slash :: wanted,true)).getD [] ++ [(wanted,false)]
  let w ← get
  let chosen := candidates.find? fun (path,_) =>
    match w.system.files.stat w.shell.process.cwd path with
    | .ok .directory => true
    | _ => false
  let (path,isFromList) := chosen.getD (wanted,false)
  if ← enter path isPhysical then
    if shows || isFromList then out ((← shell).directory ++ text "\n")
    return 0
  else fail (text "can't cd to " ++ target)

def showDirectory (args : List Bytes) : Act Nat := do
  let (found,_) ← options (text "LP") [] (args.length + 1) args
  let sh ← shell
  let physical := (sh.process.cwd.map Host.locationPath).getD []
  out ((if (found.getLast?.map (·.1)) == some (byte 'P') then physical else sh.directory) ++ text "\n")
  return 0

def test (isBracket : Bool) (args : List Bytes) : Act Nat := do
  if isBracket && (args.getLast?.bind List.head?) != some (byte ']') then fail (text "missing ]")
  let words := if isBracket then args.dropLast else args
  let w ← get
  match Condition.evaluate ⟨w.system,w.shell.process.cwd⟩ words with
  | .ok holds => return if holds then 0 else 1
  | .error message => fail message

def exit (args : List Bytes) : Act Nat := do
  if let word :: _ := args then
    let n ← number word
    modifyShell fun sh => { sh with savedStatus := some n }
  throw .exit

def sortedNames (vars : List (Bytes × Variable)) : List (Bytes × Variable) :=
  vars.mergeSort fun a b => Bytes.le a.1 b.1

def showVariables (intro : Bytes) (wanted : Variable → Bool) : Act Nat := do
  (sortedNames (← shell).vars).forM fun (name,v) => do
    if wanted v then
      out (intro ++ name ++ (match v.value with
        | some value => text "=" ++ quote value
        | none => []) ++ text "\n")
  return 0

def mark (name : Bytes) (change : Variable → Variable) (isMarked : Variable → Bool) (args : List Bytes) :
    Act Nat := do
  let (found,rest) ← options (text "p") [] (args.length + 1) args
  if rest.isEmpty || !found.isEmpty then showVariables (name ++ text " ") isMarked
  else
    rest.forM fun arg => do
      if arg.contains (byte '=') then assignText arg change
      else match (← shell).var? arg with
        | some v => modifyShell fun sh => sh.put arg (change v)
        | none => assignWith arg none change
    return 0

def makeLocal (args : List Bytes) : Act Nat := do
  if (← shell).scopes.isEmpty then fail (text "not in a function")
  args.forM fun arg => do
    localize (ScriptLauncher.assignment arg).1
    if arg.contains (byte '=') then assignText arg id
    else if arg == optionsName then return
    else if ((← shell).var? arg).isNone && !isName arg then fail (arg ++ text ": bad variable name")
  return 0

def unset (args : List Bytes) : Act Nat := do
  let (found,rest) ← options (text "vf") [] (args.length + 1) args
  rest.forM fun name => do
    if (found.getLast?.map (·.1)) == some (byte 'f') then
      modifyShell fun sh => { sh with functions := sh.functions.filter (·.1 != name) }
    else Act.unset name
  return 0

def shift (args : List Bytes) : Act Nat := do
  let n ← match args with
    | [] => pure 1
    | word :: _ => number word
  if (← shell).arguments.length < n then fail (text "can't shift that many")
  modifyShell fun sh =>
    { sh with arguments := sh.arguments.drop n,optionIndex := 1,optionOffset := none }
  return 0

def settings : List (String × Option Char) :=
  [("errexit",some 'e'),("noglob",some 'f'),("ignoreeof",some 'I'),("interactive",some 'i'),
    ("monitor",some 'm'),("noexec",some 'n'),("stdin",some 's'),("xtrace",some 'x'),
    ("verbose",some 'v'),("vi",some 'V'),("emacs",some 'E'),("noclobber",some 'C'),
    ("allexport",some 'a'),("notify",some 'b'),("nounset",some 'u'),("privileged",some 'p'),
    ("nolog",none),("debug",none)]

def setLetter (b : UInt8) (isOn : Bool) : Act Unit :=
  modifyShell fun sh =>
    let others := sh.options.filter (· != b)
    { sh with options := if isOn then b :: others else others }

def setOption (b : UInt8) (isOn : Bool) : Act Unit := do
  if settings.any fun (_,letter) => letter.map byte == some b then setLetter b isOn
  else fail (text "Illegal option -" ++ [b])

def showSettings (asTable : Bool) : Act Unit := do
  if asTable then out (text "Current option settings\n")
  let sh ← shell
  settings.forM fun (name,letter) => do
    let isOn := (letter.map sh.option).getD false
    let name := text name
    if asTable then
      out (name ++ List.replicate (16 - name.length) Bytes.space ++ text (if isOn then "on" else "off") ++ text "\n")
    else out (text (if isOn then "set -o " else "set +o ") ++ name ++ text "\n")

def setNamed (isOn : Bool) (name : Bytes) : Act Unit := do
  match settings.find? fun (other,_) => text other == name with
  | some (_,some letter) => setLetter (byte letter) isOn
  | some (_,none) => return
  | none => fail (text "Illegal option -o " ++ name)

-- Options at the front of some arguments, for the shell at work. What is behind them is given, and
-- whether it takes the place of the arguments.
def setOptions : Nat → List Bytes → Act (List Bytes × Bool)
  | 0,args => return (args,false)
  | n + 1,args =>
    match args with
    | [] => return ([],false)
    | word :: rest =>
      if word == text "-" then do
        setLetter (byte 'x') false
        setLetter (byte 'v') false
        return (rest,!rest.isEmpty)
      else if word == text "--" then return (rest,true)
      else match word with
        | sign :: letters =>
          if sign != byte '-' && sign != byte '+' then return (args,true)
          else do
            let isOn := sign == byte '-'
            let rest ← letters.foldlM (fun (rest : List Bytes) b => do
              if b == byte 'o' then
                match rest with
                | [] =>
                  showSettings isOn
                  return []
                | name :: rest =>
                  setNamed isOn name
                  return rest
              else
                setOption b isOn
                return rest) rest
            setOptions n rest
        | [] => return (args,true)

def set_ (args : List Bytes) : Act Nat := do
  if args.isEmpty then showVariables [] fun v => v.value.isSome
  else
    let (arguments,replaces) ← setOptions (args.length + 1) args
    if replaces then
      modifyShell fun sh => { sh with arguments,optionIndex := 1,optionOffset := none }
    return 0

def trap (args : List Bytes) : Act Nat := do
  let rest ← operands args
  match rest with
  | [] =>
    let sh ← shell
    (List.range Process.Signal.count).forM fun n => do
      if let some action := sh.traps.lookup n then
        out (text "trap -- " ++ quote action ++ text " " ++ (if n == 0 then text "EXIT" else Signal.name n) ++ text "\n")
    return 0
  | first :: others =>
    let resets := others.isEmpty || (Process.Signal.number? first).any (· < Process.Signal.count)
    let action := if resets || first == text "-" then none else some first
    let rec each : List Bytes → Act Nat
      | [] => return 0
      | word :: words => do
        match Signal.ofWord? word 0 with
        | none =>
          discard (write 2 (text "trap: " ++ word ++ text ": bad trap\n"))
          return 1
        | some n =>
          modifyShell fun sh =>
            let kept := sh.traps.filter (·.1 != n)
            { sh with traps := match action with
                | some a => (n,a) :: kept
                | none => kept }
          each words
    each (if resets then rest else others)

def umask (args : List Bytes) : Act Nat := do
  let (found,rest) ← options (text "S") [] (args.length + 1) args
  let mask := (← shell).process.mask
  let setMask (mask : Nat) : Act Unit :=
    modifyShell fun sh => { sh with process := { sh.process with mask := mask % 512 } }
  match rest with
  | [] =>
    if found.isEmpty then
      let digits := Process.digitsOf 8 false mask
      out (List.replicate (4 - digits.length) (byte '0') ++ digits ++ text "\n")
    else out (Process.Permissions.describe mask ++ text "\n")
    return 0
  | word :: _ =>
    if (word.head?.map isDigit).getD false then
      match Process.Permissions.octal? word with
      | some n => setMask n
      | none => badNumber word
    else match Process.Permissions.change? false 0 word (0o777 - (0o777 &&& mask)) with
      | some mode => setMask (0o777 - (0o777 &&& mode))
      | none => fail (text "Illegal mode: " ++ word)
    return 0

-- Bytes of a line that is read. The flag tells that the line goes on.
def lineSpans (isRaw : Bool) : Bytes → List Span × Bool
  | [] => ([],false)
  | [b] =>
    if b == 92 && !isRaw then ([],true) else ([⟨[.letter b false],.atSeparators,true⟩],false)
  | b :: c :: s =>
    if b == 92 && !isRaw then
      let (rest,continues) := lineSpans isRaw s
      (⟨[.letter c true],.none,false⟩ :: rest,continues)
    else
      let (rest,continues) := lineSpans isRaw (c :: s)
      (Span.consText (.letter b false) .atSeparators rest,continues)

def readSpans (isRaw : Bool) : Nat → Act (List Span × Nat)
  | 0 => return ([],1)
  | n + 1 => do
    let w ← get
    match w.shell.process.streams.channel? 0 with
    | none => return ([],1)
    | some id =>
      match w.system.readLine id with
      | .error _ => return ([],1)
      | .ok (line,isWhole,system) =>
        setSystem system
        let (spans,continues) := lineSpans isRaw (line.filter (· != 0))
        if !isWhole then return (spans,1)
        else if continues then
          let (others,status) ← readSpans isRaw n
          return (spans ++ others,status)
        else return (spans,0)

def read (bound : Nat) (args : List Bytes) : Act Nat := do
  let (found,names) ← options (text "r") (text "p") (args.length + 1) args
  if names.isEmpty then fail (text "arg count")
  let (spans,status) ← readSpans (found.any (·.1 == byte 'r')) bound
  let values := (fields (← shell).separators (some names.length) spans).map Span.letters
  (names.zip (values ++ List.replicate names.length [])).forM fun (name,value) => assign name value
  return status

-- One option from some arguments: its letter, its argument, where to go on, and what is wrong.
structure Option_ where
  letter : UInt8
  argument : Option Bytes
  index : Nat
  offset : Option Nat
  complaint : Option Bytes := none
  isDone : Bool := false

def nextOption (spec : Bytes) (args : List Bytes) (index : Nat) (offset : Option Nat) : Option_ :=
  let isQuiet := spec.head? == some (byte ':')
  let current := match offset with
    | some off => if 1 < index then ((args[index - 2]?).map (·.drop off)).getD [] else []
    | none => []
  let ended (index : Nat) : Option_ :=
    { letter := byte '?',argument := none,index,offset := none,isDone := true }
  let taken : Except Option_ (Bytes × Nat) :=
    if !current.isEmpty then .ok (current,index)
    else match args[index - 1]? with
      | some (45 :: b :: s) =>
        if b == 45 && s.isEmpty then .error (ended (index + 1)) else .ok (b :: s,index + 1)
      | _ => .error (ended index)
  match taken with
  | .error o => o
  | .ok ([],index) => ended index
  | .ok (b :: rest,index) =>
    let place (rest : Bytes) : Option Nat :=
      some ((((args[index - 2]?).map (·.length)).getD 0) - rest.length)
    let behind := (spec.dropWhile (· != b)).drop 1
    if !spec.contains b || b == byte ':' then
      { letter := byte '?',argument := if isQuiet then some [b] else none,index,offset := place rest
        complaint := if isQuiet then none else some (text "Illegal option -" ++ [b] ++ text "\n") }
    else if behind.head? == some (byte ':') then
      match rest,args[index - 1]? with
      | [],none =>
        { letter := if isQuiet then byte ':' else byte '?',argument := if isQuiet then some [b] else none
          index,offset := none
          complaint := if isQuiet then none else some (text "No arg for -" ++ [b] ++ text " option\n") }
      | [],some value => { letter := b,argument := some value,index := index + 1,offset := none }
      | _,_ => { letter := b,argument := some rest,index,offset := none }
    else { letter := b,argument := some [],index,offset := place rest }

def getopts (args : List Bytes) : Act Nat := do
  match ← operands args with
  | spec :: name :: rest =>
    let sh ← shell
    let from_ := if rest.isEmpty then sh.arguments else rest
    let isPast := from_.length + 1 < sh.optionIndex
    let (index,offset) := if isPast then (1,none) else (sh.optionIndex,sh.optionOffset)
    let o := nextOption spec from_ index offset
    if let some complaint := o.complaint then discard (write 2 complaint)
    if !o.isDone then
      match o.argument with
      | some value => assign (text "OPTARG") value
      | none => Act.unset (text "OPTARG")
    assign (text "OPTIND") (Bytes.ofNat o.index)
    modifyShell fun sh => { sh with optionIndex := o.index,optionOffset := o.offset }
    assign name [o.letter]
    return if o.isDone then 1 else 0
  | _ => fail (text "Usage: getopts optstring var [arg...]")

def showShorthand (name meaning : Bytes) : Act Unit := out (name ++ text "=" ++ quote meaning ++ text "\n")

def shorthand (args : List Bytes) : Act Nat := do
  let sh ← shell
  if args.isEmpty then
    (sh.shorthands.mergeSort fun a b => decide (Session.row a.1 ≤ Session.row b.1)).forM fun (name,meaning) =>
      showShorthand name meaning
    return 0
  else
    args.foldlM (fun (status : Nat) arg => do
      match Bytes.cut (byte '=') arg with
      | some (name,meaning) =>
        if name.isEmpty then
          discard (write 2 (text "alias: " ++ arg ++ text " not found\n"))
          return 1
        else
          modifyShell fun sh =>
            { sh with shorthands :=
                if sh.shorthands.any (·.1 == name) then
                  sh.shorthands.map fun (other,old) => if other == name then (other,meaning) else (other,old)
                else sh.shorthands ++ [(name,meaning)] }
          return status
      | none =>
        match (← shell).shorthands.lookup arg with
        | some meaning =>
          showShorthand arg meaning
          return status
        | none =>
          discard (write 2 (text "alias: " ++ arg ++ text " not found\n"))
          return 1) 0

def dropShorthand (args : List Bytes) : Act Nat := do
  let (found,rest) ← options (text "a") [] (args.length + 1) args
  if !found.isEmpty then
    modifyShell fun sh => { sh with shorthands := [] }
    return 0
  else
    rest.foldlM (fun (status : Nat) name => do
      if (← shell).shorthands.any (·.1 == name) then
        modifyShell fun sh => { sh with shorthands := sh.shorthands.filter (·.1 != name) }
        return status
      else
        discard (write 2 (text "unalias: " ++ name ++ text " not found\n"))
        return 1) 0

def type_ (args : List Bytes) : Act Nat :=
  args.foldlM (fun (status : Nat) name => do
    let found ← describe name none true
    return status ||| found) 0

def limits (args : List Bytes) : Act Nat := do
  let (_,rest) ← options (text "HSatfdscmlpnvwr") [] (args.length + 1) args
  if rest.isEmpty then out (text "unlimited\n")
  return 0

def command (args : List Bytes) : Act Nat := do
  let (found,rest) ← options (text "pvV") [] (args.length + 1) args
  let has (c : Char) : Bool := found.any (·.1 == byte c)
  match rest with
  | name :: _ =>
    if has 'v' || has 'V' then describe name (if has 'p' then some defaultSearchPath else none) (has 'V')
    else return 0
  | [] => return 0

def hash (args : List Bytes) : Act Nat := do
  let (found,rest) ← options (text "r") [] (args.length + 1) args
  if !found.isEmpty then
    modifyShell fun sh => { sh with found := [] }
    return 0
  else if rest.isEmpty then
    let row (name : Bytes) : Nat := (name.foldl (fun n b => n + b.toNat) (16 * (name.headD 0).toNat)) % 31
    (((← shell).found.mergeSort fun a b => decide (row a.1 ≤ row b.1))).forM fun (_,path) => out (path ++ text "\n")
    return 0
  else
    rest.foldlM (fun (status : Nat) name => do
      if name.contains Bytes.slash || builtinNames.contains name || (← shell).functions.any (·.1 == name) then
        return status
      else
        modifyShell fun sh => { sh with found := sh.found.filter (·.1 != name) }
        match ← locate name with
        | .ok _ => return status
        | .error how =>
          warn (startMessage name how)
          return 1) 0

def receive (signal : Nat) : Act Unit := do
  let sh ← shell
  if signal == 0 || Process.Signal.stops signal then return
  else match if signal == 9 then none else sh.traps.lookup signal with
    | some [] => return
    | some _ => modifyShell fun sh => { sh with arrived := sh.arrived ++ [signal] }
    | none =>
      if (sh.process.ignored.contains signal && signal != 9) || Process.Signal.isHarmless signal then return
      else throw (.killed signal)

def takeSignals : Act Unit := do
  let w ← get
  let own := w.system.sent.filter (·.1 == w.shell.process.number)
  if !own.isEmpty then
    setSystem { w.system with sent := w.system.sent.filter (·.1 != w.shell.process.number) }
    own.reverse.forM fun (_,signal) => receive signal

-- Sends a signal to a process; the answer tells whether there is one.
def send (process signal : Nat) : Act Bool := do
  let w ← get
  if process == w.shell.process.number || process == 0 then
    receive signal
    return true
  else if w.shell.jobs.any (·.process == process) then
    let ends := signal != 0 && !Process.Signal.isHarmless signal && !Process.Signal.stops signal
    if ends then
      modifyShell fun sh =>
        { sh with jobs := sh.jobs.map fun job =>
            let isOver := job.ending.any fun (_,moment) => decide (moment ≤ w.system.clock)
            if job.process == process && !isOver then
              { job with ending := some (.signal signal,w.system.clock) }
            else job }
    return true
  else if w.system.alive.contains process then
    if signal != 0 then setSystem { w.system with sent := (process,signal) :: w.system.sent }
    return true
  else return false

def jobOf (word : Bytes) : Act Job := do
  let jobs := (← shell).jobs
  let rest := word.drop 1
  let found :=
    if rest.isEmpty || rest == text "%" || rest == text "+" then jobs.getLast?
    else match Process.Signal.number? rest with
      | some n => jobs.find? (·.number == n)
      | none => none
  match found with
  | some job => return job
  | none => fail (text "No such job: " ++ word)

def killUsage : Bytes :=
  text "Usage: kill [-s sigspec | -signum | -sigspec] [pid | job]... or\nkill -l [exitstatus]"

def listSignals : List Bytes → Act Nat
  | [] => do
    out (text "0\n")
    ((List.range Process.Signal.count).drop 1).forM fun n => out (Signal.name n ++ text "\n")
    return 0
  | word :: _ => do
    let n ← number word
    let n := if 128 < n then n - 128 else n
    if 0 < n && n < Process.Signal.count then
      out (Signal.name n ++ text "\n")
      return 0
    else fail (text "invalid signal number or exit status: " ++ word)

def kill (args : List Bytes) : Act Nat := do
  let direct := match args with
    | (45 :: word) :: rest => (Signal.ofWord? word 1).map fun n => (n,rest)
    | _ => none
  let (signal,lists,targets) ← match direct with
    | some (n,rest) => pure (some n,false,rest)
    | none => do
      let (found,rest) ← options (text "l") (text "s") (args.length + 1) args
      let signal ← match found.find? (·.1 == byte 's') with
        | none => pure none
        | some (_,word) =>
          match Signal.ofWord? word 1 with
          | some n => pure (some n)
          | none => fail (text "invalid signal number or name: " ++ word)
      pure (signal,found.any (·.1 == byte 'l'),rest)
  if lists then listSignals targets
  else if targets.isEmpty then fail killUsage
  else
    targets.foldlM (fun (status : Nat) word => do
      let isThere ←
        if word.head? == some (byte '%') then send (← jobOf word).process (signal.getD 15)
        else if word.head? == some (byte '-') then do
          discard (number (word.drop 1))
          pure false
        else send (← number word) (signal.getD 15)
      if isThere then return status
      else
        warn (text "No such process\n")
        return 1) 0

def statusOf : Ending → Nat
  | .status code => code
  | .signal number => 128 + number

def announce : Ending → Act Unit
  | .status _ => return
  | .signal number => do
    if number != 2 && number != 13 then discard (write 2 (Process.Signal.sentence number ++ text "\n"))

def finishJob (job : Job) : Act Job := do
  match job.ending with
  | some _ => return job
  | none =>
    let s ← system
    let (ending,after) := job.work { s with clock := job.start }
    setSystem { after with clock := s.clock }
    let done := { job with ending := some (ending,after.clock) }
    modifyShell fun sh =>
      { sh with jobs := sh.jobs.map fun other => if other.number == job.number then done else other }
    return done

def finishJobs : Act Unit := do
  (← shell).jobs.forM fun job => discard (finishJob job)

def passTo (moment : Nat) : Act Unit := do
  let s ← system
  setSystem { s with clock := max s.clock moment }

def wait (args : List Bytes) : Act Nat := do
  match ← operands args with
  | [] =>
    (← shell).jobs.forM fun job => do
      let done ← finishJob job
      passTo ((done.ending.map (·.2)).getD 0)
    modifyShell fun sh => { sh with jobs := sh.jobs.map fun job => { job with isWaited := true } }
    takeSignals
    return 0
  | targets =>
    targets.foldlM (fun (_ : Nat) word => do
      let job ←
        if word.head? == some (byte '%') then some <$> jobOf word
        else do
          let n ← number word
          pure ((← shell).jobs.find? (·.process == n))
      match job with
      | none => return 127
      | some job =>
        let done ← finishJob job
        match done.ending with
        | some (ending,moment) =>
          passTo moment
          if !done.isAnnounced then announce ending
          modifyShell fun sh =>
            { sh with jobs := sh.jobs.map fun other =>
                if other.number == job.number then { other with isAnnounced := true,isWaited := true } else other }
          takeSignals
          return statusOf ending
        | none => return 127) 0

-- Shows the jobs; those that are over are shown once.
def jobs (args : List Bytes) : Act Nat := do
  discard (options (text "lp") [] (args.length + 1) args)
  finishJobs
  let sh ← shell
  let clock := (← system).clock
  let all := sh.jobs
  all.reverse.forM fun job => do
    let isCurrent := (all.getLast?.map (·.number)) == some job.number
    let isPrevious := (all.dropLast.getLast?.map (·.number)) == some job.number
    let sign := if isCurrent then text "+" else if isPrevious then text "-" else text " "
    let state := match job.ending with
      | some (.status 0,moment) => if moment ≤ clock then text "Done" else text "Running"
      | some (.status n,moment) =>
        if moment ≤ clock then text "Done(" ++ Bytes.ofNat n ++ text ")" else text "Running"
      | some (.signal n,_) => Process.Signal.sentence n
      | none => text "Running"
    let shown := text "[" ++ Bytes.ofNat job.number ++ text "] " ++ sign ++ text " " ++ state
    out (shown ++ List.replicate (max 1 (33 - shown.length)) Bytes.space ++ text "\n")
  modifyShell fun sh =>
    { sh with jobs := sh.jobs.filter fun job => !job.ending.any fun (_,moment) => decide (moment ≤ clock) }
  return 0

def return_ (args : List Bytes) : Act Nat := do
  match args with
  | word :: _ =>
    let n ← number word
    modifyShell fun sh => { sh with skip := .toFunctionEnd true }
    return n
  | [] =>
    modifyShell fun sh => { sh with skip := .toFunctionEnd false }
    return (← shell).status

end Builtin

end ScriptLauncher.Shell
