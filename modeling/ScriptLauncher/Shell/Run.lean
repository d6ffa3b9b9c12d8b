import ScriptLauncher.Shell.Builtin
import ScriptLauncher.Shell.Expansion

namespace ScriptLauncher.Shell

-- Carrying out statements. A statement gives a status; while it is at work it can change the shell,
-- be interrupted, or make others be left out. Shells inside the shell work on a copy of it: what
-- they do to files and channels stays, what they do to variables does not.

open Process (System Streams Ending)
open Act

inductive Prepared where
  | file (stream : Nat) (how : Opening) (path : Bytes)
  | duplicate (stream : Nat) (source : Option Nat)
  | document (stream : Nat) (content : Bytes)

namespace Kernel

def showRead (echoes : Bool) (read : Unit → Bytes) : Act Unit := do
  if echoes && (← shell).option 'v' then discard (write 2 (read ()))

-- The statements of a script, one after the other. The lines of a file can be shown.
def script (k : Kernel) (place : Place) (echoes : Bool) : Nat → Reader → Nat → Act Nat
  | 0,_,status => return status
  | n + 1,reader,status => do
    let sh ← shell
    let read (after : Reader) (_ : Unit) : Bytes := reader.remaining.take (reader.size - after.size)
    match Reading.step.run { reader with shorthands := sh.shorthands,documents := sh.documents } with
    | .error problem =>
      showRead echoes fun _ =>
        ((Bytes.splitOn Bytes.newline reader.remaining).take (problem.line + 1 - reader.line)).flatMap
          (· ++ [Bytes.newline])
      modifyShell fun sh => { sh with line := problem.line }
      fail problem.message
    | .ok (.end_,after) =>
      showRead echoes (read after)
      return status
    | .ok (.statement s,after) =>
      showRead echoes (read after)
      modifyShell fun sh => { sh with documents := after.documents,inputLine := after.line }
      match s with
      | none => k.script place echoes n after status
      | some s =>
        let status ← k.run s place
        if (← shell).skip != .nothing then return status else k.script place echoes n after status

def evaluate (k : Kernel) (place : Place) (source : Bytes) (echoes : Bool) : Act Nat := do
  let inputLine := (← shell).inputLine
  let status ← k.script place echoes (source.length + 2) (.ofText source [] []) 0
  modifyShell fun sh => { sh with inputLine }
  return status

def runTraps (k : Kernel) : Nat → Act Unit
  | 0 => return
  | n + 1 => do
    let sh ← shell
    match sh.arrived with
    | [] => return
    | signal :: rest =>
      if sh.skip != .nothing then return
      else
        modifyShell fun sh => { sh with arrived := rest }
        match sh.traps.lookup signal with
        | none => k.runTraps n
        | some action =>
          let status := sh.savedStatus.getD sh.status
          modifyShell fun sh => { sh with savedStatus := some status }
          discard (k.evaluate {} action false)
          if (← shell).skip != .toFunctionEnd true then setStatus status
          modifyShell fun after => { after with savedStatus := sh.savedStatus }
          k.runTraps n

-- Ends a shell: what was set for its end is carried out, and then the jobs that nobody waited for.
def conclude (k : Kernel) (act : Act Unit) (w : World) : Ending × System :=
  let withJobs (w : World) (ending : Ending) : Ending × System :=
    match Builtin.finishJobs w with
    | .ok _ w => (ending,w.system)
    | .error _ w => (ending,w.system)
  let flushed (w : World) : World := match flush w with
    | .ok _ w => w
    | .error _ w => w
  let leave (w : World) : Ending × System :=
    let w := flushed w
    let sh := { w.shell with skip := .nothing,loops := 0 }
    match sh.traps.lookup 0 with
    | none => withJobs { w with shell := sh } (.status (sh.status % 256))
    | some action =>
      let sh := { sh with traps := sh.traps.filter (·.1 != 0),savedStatus := some sh.status,commandName := none }
      match k.evaluate {} action false { w with shell := sh } with
      | .ok _ w => withJobs (flushed w) (.status ((w.shell.savedStatus.getD w.shell.status) % 256))
      | .error .exit w => withJobs (flushed w) (.status ((w.shell.savedStatus.getD w.shell.status) % 256))
      | .error .error w => withJobs (flushed w) (.status (w.shell.status % 256))
      | .error (.killed n) w => withJobs w (.signal n)
      | .error (.replaced ending) w => withJobs w ending
  match act w with
  | .ok _ w => leave w
  | .error .exit w =>
    let status := w.shell.savedStatus.getD w.shell.status
    leave { w with shell := { w.shell with status,savedStatus := none } }
  | .error .error w => leave { w with shell := { w.shell with savedStatus := none } }
  | .error (.killed n) w => withJobs w (.signal n)
  | .error (.replaced ending) w => withJobs w ending

-- The shell as a new process has it. Only signals that are ignored stay so.
def forked (sh : Session) (number : Nat) : Session :=
  { sh with
    process := { sh.process with number }
    traps := sh.traps.filter fun (n,action) => action.isEmpty && n != 0
    arrived := [],jobs := [],buffer := [] }

def newProcess : Act Nat := do
  let s ← system
  -- A number of a job that has been waited for becomes free.
  modifyShell fun sh =>
    { sh with jobs := match sh.jobs.findIdx? (·.isWaited) with
        | some place => sh.jobs.eraseIdx place
        | none => sh.jobs }
  setSystem { s with freshProcess := s.freshProcess + 1 }
  return s.freshProcess

def child (k : Kernel) (change : Session → Session) (act : Act Unit) : Act Ending := do
  let number ← newProcess
  let w ← get
  let inner := change (forked w.shell number)
  let s := { w.system with alive := w.shell.process.number :: w.system.alive }
  let (ending,s) := k.conclude act ⟨s,inner⟩
  set { w with system := { s with alive := w.system.alive } }
  return ending

def collect (k : Kernel) (s : Statement) : Act (Bytes × Nat) := do
  let (id,sys) := (← system).establish (.pipe [])
  setSystem sys
  let ending ← k.child (fun sh => { sh with process := { sh.process with streams := sh.process.streams.lead 1 id } })
    (discard (k.run s { isLast := true }))
  Builtin.announce ending
  let (written,sys) := (← system).drain id 0xFFFFFFFF
  setSystem sys
  Builtin.takeSignals
  return (written,Builtin.statusOf ending)

-- A word that is no number of a stream. The reader of the script would have noticed a plain one.
def badStream : Act Prepared := do
  modifyShell fun sh => { sh with line := sh.inputLine }
  fail (text "Syntax error: Bad fd number")

def prepare (k : Kernel) (rs : List Redirection) : Act (List Prepared) :=
  rs.mapM fun r => do
    match r with
    | .file stream how target => return .file stream how (← expandText k {} target)
    | .duplicate stream source => return .duplicate stream source
    | .duplicateNamed stream word =>
      match ← expandFields k word with
      | [b] :: _ =>
        if isDigit b then return .duplicate stream (some (b.toNat - 48))
        else if b == byte '-' then return .duplicate stream none
        else badStream
      | [] => fail (text "redir error")
      | _ => badStream
    | .document stream isExpanded number =>
      let word := ((← shell).documents[number]?).getD []
      let content ← if isExpanded then expandText k { isQuoted := true } word else pure (Word.letters word)
      return .document stream content

end Kernel

abbrev Former := List (Nat × Option Nat)

def accessOf : Opening → Process.Access
  | .read => { reads := true }
  | .write => { writes := true,creates := true,truncates := true }
  | .force => { writes := true,creates := true,truncates := true }
  | .append => { writes := true,appends := true,creates := true }
  | .both => { reads := true,writes := true,creates := true }

def channelOf (r : Prepared) : Act (Except Bytes (Nat × Option Nat)) := do
  let w ← get
  match r with
  | .document stream content =>
    let (_,outlet,s) := w.system.provide [(0,content)]
    setSystem s
    return .ok (stream,some outlet)
  | .duplicate stream none => return .ok (stream,none)
  | .duplicate stream (some source) =>
    match w.shell.process.streams.channel? source with
    | some id => return .ok (stream,some id)
    | none => return .error (Bytes.ofNat source ++ text ": Bad file descriptor")
  | .file stream how path =>
    let isProtected := how == .write && w.shell.option 'C' &&
      (match w.system.look w.shell.process.cwd path with
        | .ok (.file _) => true
        | _ => false)
    if isProtected then return .error (text "cannot create " ++ path ++ text ": File exists")
    else match w.system.open_ w.shell.process path (accessOf how) with
      | .ok (id,s) =>
        setSystem s
        return .ok (stream,some id)
      | .error refusal =>
        let isMissing := refusal == .noEntry || refusal == .notDirectory
        return .error (match how with
          | .read =>
            text "cannot open " ++ path ++ text ": " ++
              (if isMissing then text "No such file" else refusal.sentence)
          | _ =>
            text "cannot create " ++ path ++ text ": " ++
              (if isMissing then text "Directory nonexistent" else refusal.sentence))

def leadStream (stream : Nat) (channel : Option Nat) : Act Unit :=
  modifyShell fun sh =>
    let streams := match channel with
      | some id => sh.process.streams.lead stream id
      | none => sh.process.streams.close stream
    { sh with process := { sh.process with streams } }

def restore (former : Former) : Act Unit := former.forM fun (stream,channel) => leadStream stream channel

-- Leads streams elsewhere, one after the other. None if one of them cannot be.
def redirect (rs : List Prepared) : Act (Option Former) :=
  let rec each : List Prepared → Former → Act (Option Former)
    | [],former => return some former
    | r :: rest,former => do
      match ← channelOf r with
      | .error message =>
        -- A stream is closed before another takes its place, so its failure can go unheard.
        let before := (← shell).process.streams
        if let .duplicate stream _ := r then leadStream stream none
        warn message
        modifyShell fun sh => { sh with process := { sh.process with streams := before } }
        restore former
        return none
      | .ok (stream,channel) =>
        let old := (← shell).process.streams.channel? stream
        leadStream stream channel
        each rest ((stream,old) :: former)
  each rs []

namespace Kernel

def withStreams (k : Kernel) (rs : List Redirection) (act : Act Nat) : Act Nat := do
  let prepared ← k.prepare rs
  match ← redirect prepared with
  | none => return 2
  | some former => finally_ act (restore former)

def processFor (arguments : List Bytes) : Act Process := do
  let number ← newProcess
  let sh ← shell
  let ignored := (sh.traps.filter fun (_,action) => action.isEmpty).map (·.1)
  return { sh.process with
    number,arguments,environment := sh.environment,ignored := sh.process.ignored ++ ignored }

def startTime : Nat := 500

def startAt (k : Kernel) (path : Bytes) (arguments : List Bytes) : Act (Except Refusal Ending) := do
  Builtin.finishJobs
  let p ← processFor arguments
  let w ← get
  let loaded : Except Refusal Process.Image.Loaded :=
    if !Process.Image.fits path arguments p.environment then .error .tooManyArguments
    else match Process.Image.load w.system.files p.cwd Process.Image.maxDepth path arguments with
    | .error .noFormat => .ok ⟨text "sh",text "/bin/sh" :: path :: arguments.drop 1⟩
    | other => other
  match loaded with
  | .error how => return .error how
  | .ok loaded =>
    let s := { w.system with
      clock := w.system.clock + startTime
      alive := w.shell.process.number :: w.system.alive }
    let (ending,s) := k.execute { p with arguments := loaded.arguments } loaded.program s
    setSystem { s with alive := w.system.alive }
    return .ok ending

def startStatus : Refusal → Nat
  | .noEntry | .notDirectory | .nameTooLong | .tooManyLinks => 127
  | _ => 126

def program (k : Kernel) (isLast : Bool) (searchPath : Option Bytes) (arguments : List Bytes) : Act Nat := do
  let name := arguments.headD []
  let path ←
    if name.contains Bytes.slash then pure (.ok name)
    else match searchPath with
      | some searchPath => pure (findProgram (← get) searchPath name)
      | none => locate name
  match path with
  | .error how =>
    warn (startMessage name how)
    return 127
  | .ok path =>
    match ← k.startAt path arguments with
    | .error how =>
      warn (startMessage name how)
      return startStatus how
    | .ok ending =>
      if isLast && !(← shell).hasTraps then throw (.replaced ending)
      Builtin.announce ending
      Builtin.takeSignals
      return Builtin.statusOf ending

def exec (k : Kernel) (args : List Bytes) : Act Nat := do
  match args with
  | [] => return 0
  | name :: _ =>
    let path ← if name.contains Bytes.slash then pure (.ok name)
      else do
        let w ← get
        pure (findProgram w (w.shell.value (text "PATH")) name)
    let refused (how : Refusal) : Act Nat := do
      warn (startMessage name how)
      setStatus (startStatus how)
      throw .exit
    match path with
    | .error how => refused how
    | .ok path =>
      match ← k.startAt path args with
      | .error how => refused how
      | .ok ending => throw (.replaced ending)

def source (k : Kernel) (args : List Bytes) : Act Nat := do
  match ← operands args with
  | [] => return 0
  | name :: _ =>
    let w ← get
    let candidates := if name.contains Bytes.slash then [name]
      else places (w.shell.value (text "PATH")) name
    let isFile (path : Bytes) : Bool := match w.system.look w.shell.process.cwd path with
      | .ok (.file _) => true
      | _ => false
    let path ← if name.contains Bytes.slash then pure name
      else match candidates.find? isFile with
        | some path => pure path
        | none => fail (name ++ text ": not found")
    match w.system.open_ w.shell.process path { reads := true } with
    | .error how =>
      let isMissing := how == .noEntry || how == .notDirectory
      fail (text "cannot open " ++ path ++ text ": " ++
        (if isMissing then text "No such file" else how.sentence))
    | .ok (id,s) =>
      let content := match s.read id 0xFFFFFFFF with
        | .ok (data,_) => data
        | .error _ => []
      modifyShell fun sh => { sh with commandName := some path }
      let status ← k.evaluate {} content true
      modifyShell fun sh =>
        { sh with skip := match sh.skip with
            | .toFunctionEnd _ => .nothing
            | other => other }
      return status

def builtin (k : Kernel) (place : Place) (name : Bytes) (args : List Bytes) : Act Nat :=
  let is (s : String) : Bool := name == text s
  if is ":" || is "true" then return 0
  else if is "false" then return 1
  else if is "echo" then do
    out (Print.echo args)
    return 0
  else if is "printf" then do Print.printf (← operands args)
  else if is "test" then Builtin.test false args
  else if is "[" then Builtin.test true args
  else if is "cd" || is "chdir" then Builtin.changeDirectory args
  else if is "pwd" then Builtin.showDirectory args
  else if is "exit" then Builtin.exit args
  else if is "export" then
    Builtin.mark name (fun v => { v with isExported := true }) (·.isExported) args
  else if is "readonly" then
    Builtin.mark name (fun v => { v with isReadOnly := true }) (·.isReadOnly) args
  else if is "local" then Builtin.makeLocal args
  else if is "unset" then Builtin.unset args
  else if is "shift" then Builtin.shift args
  else if is "set" then Builtin.set_ args
  else if is "trap" then Builtin.trap args
  else if is "umask" then Builtin.umask args
  else if is "read" then Builtin.read k.bound args
  else if is "getopts" then Builtin.getopts args
  else if is "alias" then Builtin.shorthand args
  else if is "unalias" then Builtin.dropShorthand args
  else if is "type" then Builtin.type_ args
  else if is "command" then Builtin.command args
  else if is "hash" then Builtin.hash args
  else if is "kill" then Builtin.kill args
  else if is "wait" then Builtin.wait args
  else if is "jobs" then Builtin.jobs args
  else if is "fg" || is "bg" then fail (text "No current job")
  else if is "break" then Builtin.leaveLoop .toLoopEnd args
  else if is "continue" then Builtin.leaveLoop .toNextRound args
  else if is "return" then Builtin.return_ args
  else if is "times" then do
    out (text "0m0.000000s 0m0.000000s\n0m0.000000s 0m0.000000s\n")
    return 0
  else if is "ulimit" then Builtin.limits args
  else if is "eval" then
    k.evaluate { isTested := place.isTested } (Bytes.join [Bytes.space] args) false
  else if is "exec" then k.exec args
  else k.source args

-- Carries out a command of the shell's own. A mistake in it ends the shell only if the command is a
-- special one.
def runBuiltin (k : Kernel) (place : Place) (endsShell : Bool) (name : Bytes) (args : List Bytes) : Act Nat := do
  let before := (← shell).commandName
  modifyShell fun sh => { sh with commandName := some name }
  let result ← attempt (k.builtin place name args)
  let isWritten ← flush
  if !isWritten then warn (name ++ text ": I/O error")
  modifyShell fun sh => { sh with commandName := before }
  match result with
  | .ok status =>
    let status := if isWritten then status else status ||| 1
    setStatus status
    return status
  | .error .error => if endsShell then throw .error else return (← shell).status
  | .error other => throw other

def maxCalls : Nat := 1000

def call (k : Kernel) (place : Place) (body : Statement) (args : List Bytes) : Act Nat := do
  let before ← shell
  if maxCalls ≤ before.functionDepth then
    fail (text "Maximum function recursion depth (" ++ Bytes.ofNat maxCalls ++ text ") reached")
  modifyShell fun sh =>
    { sh with
      arguments := args,loops := 0,functionDepth := sh.functionDepth + 1
      optionIndex := 1,optionOffset := none }
  finally_ (k.run body { isTested := place.isTested })
    (modifyShell fun sh =>
      { sh with
        arguments := before.arguments,loops := before.loops,functionDepth := before.functionDepth
        optionIndex := before.optionIndex,optionOffset := before.optionOffset
        skip := match sh.skip with
          | .toFunctionEnd _ => .nothing
          | other => other })

inductive Target where
  | nothing
  | builtin (name : Bytes)
  | function (body : Statement)
  | program

-- The beginning of a command: its first fields and the words behind them.
structure CommandWords where
  fields : List Bytes
  rest : List Word
  target : Target := .nothing
  isSpecial : Option Bool := none
  searchPath : Option Bytes := none

def firstFields (k : Kernel) : List Word → Act (List Bytes × List Word)
  | [] => return ([],[])
  | word :: rest => do
    match ← expandFields k word with
    | [] => firstFields k rest
    | fields => return (fields,rest)

def targetOf (sh : Session) (skipsFunctions : Bool) (name : Bytes) : Target :=
  match if skipsFunctions then none else sh.functions.lookup name with
  | some (_,body) => .function body
  | none => if builtinNames.contains name then .builtin name else .program

def behindCommand (k : Kernel) : Nat → List Bytes → List Word → Option Bytes →
    Act (Option (List Bytes × List Word × Option Bytes))
  | 0,_,_,_ => return none
  | n + 1,fields,rest,searchPath => do
    let (fields,rest) ← if fields.isEmpty then k.firstFields rest else pure (fields,rest)
    match fields with
    | [] => return none
    | (45 :: b :: s) :: others =>
      if b == 45 && s.isEmpty then
        let (others,rest) ← if others.isEmpty then k.firstFields rest else pure (others,rest)
        return if others.isEmpty then none else some (others,rest,searchPath)
      else if (b :: s).all (· == byte 'p') then behindCommand k n others rest (some defaultSearchPath)
      else return none
    | _ => return some (fields,rest,searchPath)

def resolve (k : Kernel) : Nat → Bool → CommandWords → Act CommandWords
  | 0,_,o => return o
  | n + 1,skipsFunctions,o => do
    let name := o.fields.headD []
    let target := targetOf (← shell) skipsFunctions name
    let isSpecial := match target with
      | .builtin name => o.isSpecial.orElse fun _ => some (Shell.isSpecial name)
      | _ => o.isSpecial
    let o := { o with target,isSpecial }
    if name == text "command" && (match target with
        | .builtin _ => true
        | _ => false) then
      match ← k.behindCommand (o.rest.length + o.fields.length + 2) (o.fields.drop 1) o.rest o.searchPath with
      | some (fields,rest,searchPath) => k.resolve n true { o with fields,rest,searchPath }
      | none => return o
    else return o

def trace (k : Kernel) (words : List Bytes) : Act Unit := do
  let sh ← shell
  if sh.option 'x' then
    let reading := Reading.wordParts ⟨return none,return none⟩ (.document [0] false) .double
    let intro ← match reading.run (.ofText (sh.value (text "PS4")) [] []) with
      | .ok ((word,_),_) => expandText k { isQuoted := true } word
      | .error _ => pure (sh.value (text "PS4"))
    modifyShell fun after => { after with innerStatus := sh.innerStatus }
    discard (write 2 (intro ++ Bytes.join [Bytes.space] words ++ text "\n"))

def assignments (k : Kernel) (isScoped isExported : Bool) (words : List Word) : Act (List Bytes) :=
  words.mapM fun word => do
    let entry ← expandText k { isAssignment := true } word
    if isScoped then
      localize (ScriptLauncher.assignment entry).1
      assignText entry fun v => { v with isExported := true }
    else assignText entry fun v => if isExported then { v with isExported := true } else v
    return entry

def takesAssignments (target : Target) : Bool :=
  match target with
  | .builtin name => [text "export",text "readonly",text "local"].contains name
  | _ => false

def simple (k : Kernel) (place : Place) (line : Nat) (assigned words : List Word) (rs : List Redirection) :
    Act Nat := do
  modifyShell fun sh => { sh with line,innerStatus := 0 }
  let (first,rest) ← k.firstFields words
  let o : CommandWords := { fields := first,rest }
  let o ← if first.isEmpty then pure o else k.resolve k.bound false o
  let others ← o.rest.mapM fun word => do
    if takesAssignments o.target && Word.isAssignment word then
      return [← expandText k { isAssignment := true } word]
    else expandFields k word
  let fields := o.fields ++ others.flatten
  let args := fields.drop 1
  let isSpecial := o.isSpecial == some true
  let isExec := match o.target with
    | .builtin name => name == text "exec"
    | _ => false
  let isScoped := !fields.isEmpty && !isSpecial
  let depth := (← shell).scopes.length
  if isScoped then pushScope
  let unwind : Act Unit := unwindScopes k.bound depth
  finally_ (do
    let prepared ← k.prepare rs
    match ← redirect prepared with
    | none =>
      setStatus 2
      if isSpecial then throw .error
      return 2
    | some former =>
      -- Streams that `exec` leads elsewhere stay there.
      let back : Act Unit := if isExec then return else restore former
      finally_ (do
        let entries ← k.assignments isScoped (isExec && !args.isEmpty) assigned
        if !fields.isEmpty || !entries.isEmpty then k.trace (entries ++ fields)
        match o.target with
        | .nothing => return (← shell).innerStatus
        | .builtin name => k.runBuiltin place isSpecial name args
        | .function body => k.call place body args
        | .program => k.program place.isLast o.searchPath fields) back) unwind

-- The next step of a loop: whether to go on, and whether statements are being left out.
def loopSkip : Act (Bool × Bool) := do
  let sh ← shell
  match sh.skip with
  | .nothing => return (true,false)
  | .toFunctionEnd _ => return (false,true)
  | skip =>
    if sh.skipCount ≤ 1 then
      modifyShell fun sh => { sh with skip := .nothing,skipCount := 0 }
      return (skip == .toNextRound,false)
    else
      modifyShell fun sh => { sh with skipCount := sh.skipCount - 1 }
      return (false,true)

def rounds (k : Kernel) (place : Place) (awaited : Bool) (test body : Statement) : Nat → Nat → Act Nat
  | 0,status => return status
  | n + 1,status => do
    let result ← k.run test { isTested := true }
    let wasSkipping := (← shell).skip != .nothing
    let isReturn := match (← shell).skip with
      | .toFunctionEnd _ => true
      | _ => false
    let (goesOn,_) ← loopSkip
    if wasSkipping then
      if goesOn then rounds k place awaited test body n status
      else return if isReturn then result else status
    else if (result == 0) == awaited then return status
    else
      let status ← k.run body { isTested := place.isTested }
      let (goesOn,_) ← loopSkip
      if goesOn then rounds k place awaited test body n status else return status

def eachValue (k : Kernel) (place : Place) (name : Bytes) (body : Statement) : List Bytes → Nat → Act Nat
  | [],status => return status
  | value :: rest,_ => do
    assign name value
    let status ← k.run body { isTested := place.isTested }
    let (goesOn,_) ← loopSkip
    if goesOn then eachValue k place name body rest status else return status

def insideLoop (act : Act Nat) : Act Nat := do
  modifyShell fun sh => { sh with loops := sh.loops + 1 }
  finally_ act (modifyShell fun sh => { sh with loops := sh.loops - 1 })

def firstArm (k : Kernel) (place : Place) (subject : Bytes) : List Arm → Act Nat
  | [] => return 0
  | .mk patterns body :: rest => do
    let fits ← patterns.foldlM (fun (found : Bool) word => do
      if found then return true
      else return (← expandPattern k word).matches_ subject) false
    if fits then
      match body with
      | some s => k.run s place
      | none => return 0
    else firstArm k place subject rest

def startJob (k : Kernel) (act : Act Unit) : Act Nat := do
  let number ← newProcess
  let w ← get
  let jobs := w.shell.jobs
  let numbers := jobs.map (·.number)
  let free := ((List.range (jobs.length + 2)).drop 1).find? fun n => !numbers.contains n
  let inner := forked w.shell number
  let inner := { inner with process := { inner.process with ignored := 2 :: 3 :: inner.process.ignored } }
  let parent := w.shell.process.number
  let work (s : System) : Ending × System :=
    let (id,s) := s.establish .nowhere
    let inner := { inner with process := { inner.process with streams := inner.process.streams.lead 0 id } }
    let (ending,after) := k.conclude act ⟨{ s with alive := parent :: s.alive },inner⟩
    (ending,{ after with alive := s.alive })
  let job : Job := { number := free.getD 1,process := number,start := w.system.clock + 200,work }
  modifyShell fun sh => { sh with jobs := sh.jobs ++ [job],lastJob := some number }
  return 0

-- The stages of a pipeline, each with the output of the one before. All begin at one moment.
def stages (k : Kernel) (place : Place) (start : Nat) : List Statement → Option Nat → Nat → Act Nat
  | [],_,status => return status
  | s :: rest,input,_ => do
    let sys ← system
    setSystem { sys with clock := start }
    let (inlet,outlet) ← if rest.isEmpty then pure (none,none)
      else do
        let (inlet,outlet,sys) := (← system).provide []
        setSystem sys
        pure (some inlet,some outlet)
    let ending ← k.child
      (fun sh =>
        let streams := sh.process.streams
        let streams := match input with
          | some id => streams.lead 0 id
          | none => streams
        let streams := match inlet with
          | some id => streams.lead 1 id
          | none => streams
        { sh with process := { sh.process with streams } })
      (discard (k.run s { place with isLast := true }))
    Builtin.announce ending
    let after ← system
    setSystem { after with clock := max sys.clock after.clock }
    k.stages place start rest outlet (Builtin.statusOf ending)

def subshell (k : Kernel) (place : Place) (body : Statement) (rs : List Redirection) : Act Nat := do
  let prepared ← k.prepare rs
  let inside (place : Place) : Act Unit := do
    match ← redirect prepared with
    | none =>
      setStatus 2
      throw .error
    | some _ => discard (k.run body place)
  if place.isLast && !(← shell).hasTraps then
    inside place
    throw .exit
  else
    let ending ← k.child id (inside { place with isLast := true })
    Builtin.announce ending
    Builtin.takeSignals
    return Builtin.statusOf ending

def settle (k : Kernel) (place : Place) (isChecked : Bool) (status : Nat) : Act Nat := do
  setStatus status
  k.runTraps k.bound
  if (← shell).option 'e' && isChecked && !place.isTested && status != 0 then throw .exit
  if place.isLast then throw .exit
  return (← shell).status

def statement (k : Kernel) (s : Statement) (place : Place) : Act Nat := do
  if (← shell).option 'n' then
    if place.isLast then throw .exit
    return 0
  else
    k.runTraps k.bound
    let tested : Place := { isTested := place.isTested }
    match s with
    | .negation body =>
      let status ← k.run body { isTested := true }
      k.settle place false (if status == 0 then 1 else 0)
    | .redirected line body rs =>
      modifyShell fun sh => { sh with line }
      k.settle place false (← k.withStreams rs (k.run body tested))
    | .simple line assigned words rs => k.settle place true (← k.simple place line assigned words rs)
    | .each line name words body =>
      modifyShell fun sh => { sh with line }
      let values ← words.mapM (expandFields k)
      k.settle place false (← insideLoop (k.eachValue place name body values.flatten 0))
    | .loop awaited test body =>
      k.settle place false (← insideLoop (k.rounds place awaited test body k.bound 0))
    | .subshell line body rs =>
      modifyShell fun sh => { sh with line }
      k.settle place true (← k.subshell place body rs)
    | .background _ body rs =>
      let prepared ← k.prepare rs
      let status ← k.startJob do
        match ← redirect prepared with
        | none =>
          setStatus 2
          throw .error
        | some _ => discard (k.run body { isLast := true })
      k.settle place true status
    | .pipeline isBackground bodies =>
      if isBackground then
        k.settle place true (← k.startJob do
          let status ← k.stages {} (← system).clock bodies none 0
          setStatus status)
      else
        let status ← k.stages tested (← system).clock bodies none 0
        Builtin.takeSignals
        k.settle place true status
    | .choice line subject arms =>
      modifyShell fun sh => { sh with line }
      let text ← expandText k {} subject
      k.settle place false (← k.firstArm place text arms)
    | .both first second =>
      let status ← k.run first { isTested := true }
      if status != 0 || (← shell).skip != .nothing then k.settle place false status
      else k.run second place
    | .either first second =>
      let status ← k.run first { isTested := true }
      if status == 0 || (← shell).skip != .nothing then k.settle place false status
      else k.run second place
    | .sequence first second =>
      let status ← k.run first tested
      if (← shell).skip != .nothing then k.settle place false status
      else k.run second place
    | .branch test yes no =>
      let status ← k.run test { isTested := true }
      if (← shell).skip != .nothing then k.settle place false status
      else if status == 0 then k.run yes place
      else match no with
        | some s => k.run s place
        | none => k.settle place false 0
    | .function line name body =>
      modifyShell fun sh =>
        { sh with functions := (name,line,body) :: sh.functions.filter (·.1 != name) }
      k.settle place false 0

end Kernel

end ScriptLauncher.Shell
