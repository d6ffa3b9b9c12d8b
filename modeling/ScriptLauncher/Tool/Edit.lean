import ScriptLauncher.Tool.EditScript
import ScriptLauncher.Tool.Lines

namespace ScriptLauncher.Tool.Edit

-- The program that edits texts by a script. It goes through the lines one after the other; each is
-- changed by the commands that are meant for it and then shown, unless a command decides otherwise.
-- A second text is held for later use.

inductive Queued where
  | content (s : Bytes)
  | file (path : Bytes)

-- A line of the input: its text, whether it has an end, and the file that it is from.
structure Line where
  content : Bytes
  isEnded : Bool
  file : Bytes

structure Desk where
  space : Bytes := []
  held : Bytes := []
  isEnded : Bool := true
  isHeldEnded : Bool := true
  number : Nat := 0
  file : Bytes := text "-"
  input : List Line
  queue : List Queued := []
  isReplaced : Bool := false
  -- Stretches of lines that have begun, by the number of their command, and the line of their end
  -- if that is known.
  active : List (Nat × Option Nat) := []
  lastPattern : Option Regex := none
  output : List Bytes := []
  owesEnd : Bool := false
  written : List (Bytes × Bytes × Bool) := []

structure Manner where
  script : List Command
  isQuiet : Bool

abbrev Run := ReaderT Manner (StateT Desk Work)

inductive Next where
  | command (index : Nat)
  | lineEnd (shows : Bool)
  | again
  -- The end of all; without a status, because there are no more lines.
  | stop (status : Option Nat)

namespace Run

def put (data : Bytes) : Run Unit := modify fun d =>
  { d with output := ((if d.owesEnd && !data.isEmpty then [Bytes.newline] else []) ++ data) :: d.output,
           owesEnd := d.owesEnd && data.isEmpty }

def putLine (content : Bytes) : Run Unit := modify fun d =>
  { d with output := ((if d.owesEnd then [Bytes.newline] else []) ++ content ++
             (if d.isEnded then [Bytes.newline] else [])) :: d.output,
           owesEnd := !d.isEnded }

def show_ : Run Unit := do
  if !(← read).isQuiet then putLine (← get).space

def dump : Run Unit := do
  let queue := (← get).queue
  modify fun d => { d with queue := [] }
  queue.forM fun queued => do
    match queued with
    | .content s =>
      modify fun d =>
        { d with output := ((if d.owesEnd then [Bytes.newline] else []) ++ s) :: d.output,owesEnd := false }
    | .file path =>
      match ← (Work.content path : Work _) with
      | .ok data => put data
      | .error .isDirectory =>
        let output := (← get).output
        (do
          Work.put output.reverse.flatten
          discard Work.flush
          Work.stop (text "read error on " ++ path ++ text ": Is a directory") 4 : Work Unit)
      | .error _ => return

def nextLine : Run (Option Line) := do
  let d ← get
  match d.input with
  | [] => return none
  | line :: rest =>
    set { d with input := rest,number := d.number + 1,isEnded := line.isEnded,file := line.file }
    return some line

def regex (given : Option Regex) : Run Regex := do
  match given with
  | some r =>
    modify fun d => { d with lastPattern := some r }
    return r
  | none =>
    match (← get).lastPattern with
    | some r => return r
    | none => (Work.stop (text "-e expression #1, char 0: no previous regular expression") 1 : Work _)

def fits (a : Address) : Run Bool := do
  let d ← get
  match a with
  | .line n => return d.number == n
  | .last => return d.input.isEmpty
  | .every first step => return first ≤ d.number && (d.number - first) % step == 0
  | .fits given => return ((← regex given).find? d.space 0).isSome

def isMeant (index : Nat) (g : Guard) : Run Bool := do
  let close : Run Unit := modify fun d => { d with active := d.active.filter (·.1 != index) }
  let begin_ (stop : Option Nat) : Run Unit := do
    close
    modify fun d => { d with active := (index,stop) :: d.active }
  let found : Bool ← match g.first,g.until_ with
    | none,_ => pure true
    | some a,none => fits a
    | some a,some until_ => do
      let number := (← get).number
      match (← get).active.lookup index with
      | some (some stop) =>
        if stop ≤ number then close
        pure (decide (number ≤ stop))
      | some none =>
        if let .address b := until_ then
          if ← fits b then close
        pure true
      | none =>
        if !(← fits a) then pure false
        else
          match until_ with
          | .address (.line n) => if number < n then begin_ (some n)
          | .more n => if 0 < n then begin_ (some (number + n))
          | .multiple n => if n != 0 then begin_ (some ((number / n + 1) * n))
          | .address _ => begin_ none
          pure true
  return found != g.isInverse

def cased (once always : Casing) (b : UInt8) : UInt8 :=
  let upper := if ByteClass.isLower b then b - 32 else b
  let lower := if ByteClass.isUpper b then b + 32 else b
  match once,always with
  | .upperNext,_ => upper
  | .lowerNext,_ => lower
  | _,.upper => upper
  | _,.lower => lower
  | _,_ => b

def replacement (matched : Bytes) (groups : List (Nat × Bytes)) (pieces : List Piece) : Bytes :=
  let add (state : Bytes × Casing × Casing) (s : Bytes) : Bytes × Casing × Casing :=
    s.foldl (fun (done,once,always) b => (done ++ [cased once always b],.same,always)) state
  (pieces.foldl (fun (state : Bytes × Casing × Casing) piece =>
    match piece with
    | .byte_ b => add state [b]
    | .group 0 => add state matched
    | .group n => add state ((groups.lookup n).getD [])
    | .casing .upperNext => (state.1,.upperNext,state.2.2)
    | .casing .lowerNext => (state.1,.lowerNext,state.2.2)
    | .casing c => (state.1,state.2.1,c)) ([],.same,.same)).1

-- The portions of a text with matches replaced, the last one first, and whether there were any.
-- `count` is the number of matches before, `spot` the place from which on is read, `stop` where the
-- last match ended.
def replaced (r : Regex) (s : Substitution) :
    Nat → Nat → Option Nat → Regex.Spot → List Bytes → List Bytes × Bool
  | 0,_,_,spot,done => (spot.rest :: done,false)
  | fuel + 1,count,stop,spot,done =>
    match r.search (fun _ _ => true) (fuel + 1) spot with
    | none => (spot.rest :: done,s.nth ≤ count)
    | some m =>
      let done := spot.rest.take (m.start - spot.position) :: done
      let start := spot.skip (m.start - spot.position)
      let matched := start.rest.take m.length
      let behind := start.skip m.length
      let isSpent := m.length == 0 && stop == some m.start
      let number := if isSpent then count else count + 1
      let here :=
        if isSpent then [] else if number < s.nth then matched else replacement matched m.groups s.pieces
      if !isSpent && s.nth ≤ number && !s.all then (behind.rest :: here :: done,true)
      else if m.length != 0 then replaced r s fuel number (some behind.position) behind (here :: done)
      else if behind.rest.isEmpty then (here :: done,s.nth ≤ number)
      -- Behind a match of nothing one byte is passed over.
      else replaced r s fuel number (some behind.position) (behind.skip 1) (behind.rest.take 1 :: here :: done)

def write (path line : Bytes) : Run Unit := modify fun d =>
  let owes := ((d.written.lookup path).map (·.2)).getD false
  let data := (if owes then [Bytes.newline] else []) ++ line ++ (if d.isEnded then [Bytes.newline] else [])
  let isShown := path == text "/dev/stdout"
  { d with
    output := if isShown then data :: d.output else d.output
    written := d.written.map fun (p,old,o) =>
      if p == path then (p,if isShown then [] else old ++ data,!d.isEnded) else (p,old,o) }

def substitute (s : Substitution) : Run Unit := do
  let r ← regex s.pattern
  let line := (← get).space
  let (portions,found) := replaced r s (2 * line.length + 2) 0 none (.ofText line) []
  if found then
    let result := portions.reverse.flatten
    modify fun d => { d with space := result,isReplaced := true }
    if s.prints then putLine result
    if let some path := s.file then write path result

def listed (s : Bytes) : Bytes :=
  let glyph (b : UInt8) : Bytes :=
    if b == 92 then text "\\\\"
    else if b == 8 then text "\\b"
    else match Regex.escapes.find? (·.2 == b) with
      | some (letter,_) => [92,letter]
      | none => if isPlain b then [b] else [92,48 + b / 64,48 + b / 8 % 8,48 + b % 8]
  let (done,_) := s.foldl (fun (done,width) b =>
    let g := glyph b
    if 69 < width + g.length then (done ++ text "\\\n" ++ g,g.length) else (done ++ g,width + g.length))
    (([] : Bytes),0)
  done ++ text "$\n"

def finish : Run Next := do
  show_
  dump
  return .stop none

def plain (letter : UInt8) (index : Nat) : Run Next := do
  let d ← get
  let on : Next := .command (index + 1)
  let change (f : Desk → Desk) : Run Next := do
    modify f
    return on
  let first := d.space.takeWhile (· != Bytes.newline)
  match Char.ofNat letter.toNat with
  | 'd' => return .lineEnd false
  | 'D' =>
    if first.length == d.space.length then return .lineEnd false
    else
      set { d with space := d.space.drop (first.length + 1) }
      return .again
  | 'p' => putLine d.space; return on
  | 'P' =>
    if first.length == d.space.length then putLine first else put (first ++ [Bytes.newline])
    return on
  | 'n' =>
    if d.input.isEmpty then finish
    else
      show_
      dump
      match ← nextLine with
      | some line => change fun d => { d with space := line.content }
      | none => return on
  | 'N' =>
    if d.input.isEmpty then finish
    else
      dump
      match ← nextLine with
      | some line => change fun d => { d with space := d.space ++ Bytes.newline :: line.content }
      | none => return on
  | '=' =>
    put (Bytes.ofNat d.number ++ [Bytes.newline])
    return on
  | 'h' => change fun d => { d with held := d.space,isHeldEnded := d.isEnded }
  | 'H' => change fun d => { d with held := d.held ++ Bytes.newline :: d.space,isHeldEnded := d.isEnded }
  | 'g' => change fun d => { d with space := d.held,isEnded := d.isHeldEnded }
  | 'G' => change fun d => { d with space := d.space ++ Bytes.newline :: d.held,isEnded := d.isHeldEnded }
  | 'x' =>
    change fun d => { d with space := d.held,held := d.space,isEnded := d.isHeldEnded,isHeldEnded := d.isEnded }
  | 'z' => change fun d => { d with space := [] }
  | 'F' =>
    put (d.file ++ [Bytes.newline])
    return on
  | _ =>
    put (listed d.space)
    return on

def behindGroup (script : List Command) (index : Nat) : Nat :=
  let rec go : List Command → Nat → Nat → Nat
    | [],i,_ => i
    | c :: rest,i,depth =>
      match c.action with
      | .opening => go rest (i + 1) (depth + 1)
      | .closing => if depth == 1 then i + 1 else go rest (i + 1) (depth - 1)
      | _ => go rest (i + 1) depth
  go (script.drop index) index 0

def isLabel (name : Bytes) (c : Command) : Bool :=
  match c.action with
  | .label other => other == name
  | _ => false

-- The command that a label stands for; without a name, the end of the script.
def target (script : List Command) (name : Bytes) : Nat :=
  if name.isEmpty then script.length else (script.findIdx? (isLabel name)).getD script.length

def command (index : Nat) (c : Command) : Run Next := do
  let on : Next := .command (index + 1)
  let script := (← read).script
  if !(← isMeant index c.guard) then
    match c.action with
    | .opening => return .command (behindGroup script index)
    | _ => return on
  match c.action with
  | .opening | .closing | .label _ => return on
  | .plain letter => plain letter index
  | .quit shows status =>
    if shows then
      show_
      dump
    return .stop (some status)
  | .words letter content =>
    if letter == byte 'a' then
      modify fun d => { d with queue := d.queue ++ [.content content] }
      return on
    else if letter == byte 'i' then
      put content
      return on
    else
      -- Of a stretch of lines the last one is replaced, and the others vanish.
      if c.guard.isInverse || ((← get).active.lookup index).isNone then put content
      return .lineEnd false
  | .jump letter name =>
    let isReplaced := (← get).isReplaced
    if letter != byte 'b' then modify fun d => { d with isReplaced := false }
    let jumps := letter == byte 'b' || isReplaced == (letter == byte 't')
    return if jumps then .command (target script name) else on
  | .file letter path =>
    if letter == byte 'r' then modify fun d => { d with queue := d.queue ++ [.file path] }
    else write path (← get).space
    return on
  | .substitute s =>
    substitute s
    return on
  | .exchange pairs =>
    modify fun d => { d with space := d.space.map fun b => (pairs.lookup b).getD b }
    return on

def commands : Nat → Nat → Run Next
  | 0,_ => return .stop none
  | fuel + 1,index => do
    match (← read).script[index]? with
    | none => return .lineEnd true
    | some c =>
      match ← command index c with
      | .command next => commands fuel next
      | next => return next

def patience : Nat := 1000000

-- All lines. Gives the status if a command has asked for the end.
def lines : Nat → Bool → Run (Option Nat)
  | 0,_ => return none
  | fuel + 1,isFresh => do
    let isThere ← if !isFresh then pure true else do
      match ← nextLine with
      | none => pure false
      | some line =>
        modify fun d => { d with space := line.content,isReplaced := false }
        pure true
    if !isThere then return none
    match ← commands patience 0 with
    | .stop status => return status
    | .again =>
      dump
      lines fuel false
    | .lineEnd shows =>
      if shows then show_
      dump
      lines fuel true
    | .command _ => return none

end Run

def complaint (total : Nat) (number : Nat) (problem : Problem) : Bytes :=
  text "-e expression #" ++ Bytes.ofNat number ++ text ", char " ++
    Bytes.ofNat (match problem.left with
      | some left => total - left
      | none => 0) ++ text ": " ++ problem.message

def readAll (isExtended : Bool) (scripts : List Bytes) : Work (List Command) := do
  let (all,depth) ← (scripts.zipIdx 1).foldlM (fun (done,depth) (script,number) => do
    match (commands isExtended (script.length + 1) depth).run script with
    | .error problem => Work.stop (complaint script.length number problem)
    | .ok ((found,depth),_) => return (done ++ found,depth)) (([] : List Command),0)
  if depth != 0 then Work.stop (text "-e expression #1, char 0: unmatched `\x7b'")
  all.forM fun c => do
    match c.action with
    | .jump _ name =>
      if !name.isEmpty && !all.any (Run.isLabel name) then
        Work.stop (text "can't find label for jump to `" ++ name ++ text "'") 4
    | _ => return
  return all

def targets (script : List Command) : List Bytes :=
  (script.flatMap fun c => match c.action with
    | .file 119 path => [path]
    | .substitute s => s.file.toList
    | _ => []).eraseDups

-- Puts data into a file. The standard output is none.
def saved (path data : Bytes) : Work Unit := do
  if path == text "/dev/stdout" then return
  let b ← get
  match b.system.open_ (← Work.process) path { writes := true,creates := true,truncates := true } with
  | .error how => Work.stop (text "couldn't open file " ++ path ++ text ": " ++ how.sentence) 4
  | .ok (id,system) =>
    match system.write id data with
    | .ok system => set { b with system }
    | .error _ => return

def linesOf (path data : Bytes) : List Line :=
  let (ls,isClosed) := Tool.lines data
  match ls.reverse with
  | [] => []
  | last :: before => (before.reverse.map fun l => ⟨l,true,path⟩) ++ [⟨last,isClosed,path⟩]

def inputAt (path : Bytes) : Work (List Line) := do
  match ← Work.content path with
  | .ok data => return linesOf path data
  | .error .isDirectory =>
    discard Work.flush
    Work.stop (text "read error on " ++ path ++ text ": Is a directory") 4
  | .error how =>
    Work.complain (text "can't read " ++ path ++ text ": " ++ how.sentence) 2
    return []

def begun (script : List Command) : List (Nat × Option Nat) :=
  (script.zipIdx.filter fun (c,_) => match c.guard.first with
    | some (.line 0) => true
    | _ => false).map fun (_,i) => (i,none)

def process (manner : Manner) (input : List Line) (owesEnd : Bool) : Work (Option Nat × Desk) := do
  let start : Desk :=
    { input,owesEnd,active := begun manner.script,written := (targets manner.script).map (·,[],false) }
  (Run.lines (input.length * 2 + Run.patience) true manner).run start

def withoutSuffix (args : List Bytes) : List Bytes × Option Bytes :=
  let suffix? (arg : Bytes) : Option Bytes :=
    (Bytes.after? (text "-i") arg).filter fun rest => !rest.isEmpty
  (args.map fun arg => if (suffix? arg).isSome then text "-i" else arg,args.findSome? suffix?)

def edit : Work Unit := do
  let spec : Spec :=
    { plain := "nrEsiu",valued := "ef"
      long := [("quiet",'n'),("silent",'n'),("regexp-extended",'E'),("expression",'e'),("file",'f'),
        ("in-place",'i'),("separate",'s'),("unbuffered",'u')] }
  let (args,suffix) := withoutSuffix (← Work.operands)
  let (options,operands) ← spec.parse args
  let given ← options.mapM fun (letter,value) => do
    if letter == byte 'e' then return [value]
    else if letter == byte 'f' then
      match ← Work.content value with
      | .ok data => return [data]
      | .error how => Work.stop (text "couldn't open file " ++ value ++ text ": " ++ how.sentence) 4
    else return []
  let (scripts,operands) ← match given.flatten,operands with
    | [],script :: operands => pure ([script],operands)
    | [],[] => spec.usageOnly
    | scripts,operands => pure (scripts,operands)
  let isExtended := options.has 'E' || options.has 'r'
  let script ← readAll isExtended scripts
  let isSilenced := (scripts.head?.map fun s => s == text "#n" || (text "#n\n").isPrefixOf s).getD false
  let manner : Manner := ⟨script,options.has 'n' || isSilenced⟩
  let paths := Lines.sources operands
  (targets script).forM fun path => saved path []
  let store (d : Desk) : Work Unit := d.written.forM fun (path,data,_) => saved path data
  if options.has 'i' then
    paths.forM fun path => do
      match ← Work.content path with
      | .error .isDirectory =>
        Work.complain (text "couldn't edit " ++ path ++ text ": not a regular file") 4
      | .error how => Work.complain (text "can't read " ++ path ++ text ": " ++ how.sentence) 2
      | .ok data =>
        let (status,d) ← process manner (linesOf path data) false
        if let some suffix := suffix then saved (path ++ suffix) data
        saved path d.output.reverse.flatten
        store d
        if let some status := status then throw (.status status)
  else
    let inputs ← if options.has 's' then paths.mapM inputAt
      else do pure [(← paths.mapM inputAt).flatten]
    discard (inputs.foldlM (fun (owesEnd : Bool) input => do
      let (status,d) ← process manner input owesEnd
      Work.put d.output.reverse.flatten
      store d
      if let some status := status then throw (.status (max status (← get).status))
      return d.owesEnd) false)

end ScriptLauncher.Tool.Edit
