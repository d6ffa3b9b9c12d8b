import ScriptLauncher.Host

namespace ScriptLauncher.Process

-- What processes share: the files, the channels that are open, and the time. A channel is what a
-- stream leads to; several streams, also of several processes, can lead to one channel and then
-- share its position. A process is a value too: its arguments, its environment and where its
-- streams lead. Processes are carried out one after the other. What one writes while another is at
-- work is put in its place by the time of writing, so a channel keeps the moment of each of its
-- portions.

abbrev Flow := List (Nat × Bytes)

namespace Flow

def ordered (flow : Flow) : List (Nat × Bytes) := flow.reverse.mergeSort fun a b => decide (a.1 ≤ b.1)

def bytes (flow : Flow) : Bytes := flow.ordered.flatMap (·.2)

def split : Nat → List (Nat × Bytes) → Bytes × Nat × List (Nat × Bytes)
  | _,[] => ([],0,[])
  | 0,portions => ([],0,portions)
  | n + 1,(moment,data) :: rest =>
    if data.length ≤ n + 1 then
      let (more,last,left) := split (n + 1 - data.length) rest
      (data ++ more,max moment last,left)
    else (data.take (n + 1),moment,(moment,data.drop (n + 1)) :: rest)

def lineLength : List (Nat × Bytes) → Nat
  | [] => 0
  | (_,data) :: rest =>
    let line := data.takeWhile (· != Bytes.newline)
    if line.length < data.length then line.length + 1 else data.length + lineLength rest

end Flow

inductive Channel where
  | nowhere
  | zeros
  | full
  | output
  | errors
  | pipe (content : Flow)
  | outlet (pipe : Nat)
  | file (id offset : Nat) (appends reads writes : Bool)
  | directory

structure System where
  files : FileSystem
  channels : List (Nat × Channel) := []
  freshChannel : Nat := 0
  output : Flow := []
  errors : Flow := []
  clock : Nat := 0
  freshProcess : Nat := 4243
  alive : List Nat := []
  -- Signals that have been sent and not yet arrived: process and signal.
  sent : List (Nat × Nat) := []

inductive Thing where
  | directory
  | file (f : File)
  | device (channel : Channel)
  | stream (number : Nat)

abbrev Streams := List (Nat × Nat)

end ScriptLauncher.Process

namespace ScriptLauncher

open Process (Streams)

structure Process where
  number : Nat
  arguments : List Bytes
  environment : List Bytes
  cwd : Option Location
  streams : Streams
  mask : Nat
  ignored : List Nat := []

end ScriptLauncher

namespace ScriptLauncher.Process

inductive Ending where
  | status (code : Nat)
  | signal (number : Nat)

namespace Streams

def channel? (streams : Streams) (number : Nat) : Option Nat := List.lookup number streams

def close (streams : Streams) (number : Nat) : Streams := streams.filter (·.1 != number)

def lead (streams : Streams) (number channel : Nat) : Streams :=
  (number,channel) :: streams.close number

end Streams

namespace System

def channel (s : System) (id : Nat) : Channel := (s.channels.lookup id).getD .nowhere

def setChannel (s : System) (id : Nat) (c : Channel) : System :=
  { s with channels := (id,c) :: s.channels.filter (·.1 != id) }

def establish (s : System) (c : Channel) : Nat × System :=
  (s.freshChannel,
    { s with channels := (s.freshChannel,c) :: s.channels,freshChannel := s.freshChannel + 1 })

def overwritten (content : Bytes) (offset : Nat) (data : Bytes) : Bytes :=
  content.take offset ++ List.replicate (offset - content.length) 0 ++ data ++
    content.drop (offset + data.length)

def write (s : System) (id : Nat) (data : Bytes) : Except Refusal System :=
  match s.channel id with
  | .nowhere | .zeros => .ok s
  | .full => if data.isEmpty then .ok s else .error .noSpace
  | .output => .ok { s with output := (s.clock,data) :: s.output }
  | .errors => .ok { s with errors := (s.clock,data) :: s.errors }
  | .pipe content => .ok (s.setChannel id (.pipe ((s.clock,data) :: content)))
  | .directory | .outlet _ => .error .badDescriptor
  | .file file offset appends reads writes =>
    if !writes then .error .badDescriptor
    else
      let size := ((s.files.withId? file).map (·.data.length)).getD 0
      let place := if appends then size else offset
      let files := s.files.modify file fun content => overwritten content place data
      .ok ({ s with files }.setChannel id (.file file (place + data.length) appends reads writes))

-- The first so many bytes of a pipe. Nobody reads what is not yet written, so time passes.
def drain (s : System) (pipe limit : Nat) : Bytes × System :=
  match s.channel pipe with
  | .pipe content =>
    let (data,moment,left) := Flow.split limit content.ordered
    (data,{ s.setChannel pipe (.pipe left.reverse) with clock := max s.clock moment })
  | _ => ([],s)

def provide (s : System) (content : Flow) : Nat × Nat × System :=
  let (pipe,s) := s.establish (.pipe content)
  let (outlet,s) := s.establish (.outlet pipe)
  (pipe,outlet,s)

def read (s : System) (id : Nat) (limit : Nat) : Except Refusal (Bytes × System) :=
  match s.channel id with
  | .nowhere => .ok ([],s)
  | .zeros | .full => .ok (List.replicate (min limit 0x100000) 0,s)
  | .output | .errors | .pipe _ => .error .badDescriptor
  | .outlet pipe => .ok (s.drain pipe limit)
  | .directory => .error .isDirectory
  | .file file offset appends reads writes =>
    if !reads then .error .badDescriptor
    else
      let content := ((s.files.withId? file).map (·.data)).getD []
      let data := (content.drop offset).take limit
      .ok (data,s.setChannel id (.file file (offset + data.length) appends reads writes))

def unread (s : System) (id count : Nat) : System :=
  match s.channel id with
  | .file file offset appends reads writes =>
    s.setChannel id (.file file (offset - count) appends reads writes)
  | _ => s

def nextLine (s : System) (id : Nat) : Nat :=
  match s.channel id with
  | .outlet pipe =>
    match s.channel pipe with
    | .pipe content => Flow.lineLength content.ordered
    | _ => 0
  | .file file offset _ _ _ =>
    Flow.lineLength [(0,(((s.files.withId? file).map (·.data)).getD []).drop offset)]
  | _ => 0

-- Reads a line byte by byte, so that nothing behind it is lost. The flag tells that the line is
-- complete.
def readLine (s : System) (id : Nat) : Except Refusal (Bytes × Bool × System) := do
  let (line,s) ← s.read id (s.nextLine id)
  let isWhole := line.getLast? == some Bytes.newline
  return (if isWhole then line.dropLast else line,isWhole,s)

def device? (path : Bytes) : Option Thing :=
  if !Path.isAbsolute path then none
  else
    let path := Path.clean path
    let named := [("/dev/null",Thing.device .nowhere),("/dev/zero",.device .zeros),
      ("/dev/full",.device .full),("/dev/stdin",.stream 0),("/dev/stdout",.stream 1),
      ("/dev/stderr",.stream 2)]
    match named.find? fun (name,_) => text name == path with
    | some (_,thing) => some thing
    | none =>
      match (Bytes.after? (text "/dev/fd/") path).orElse fun _ => Bytes.after? (text "/proc/self/fd/") path with
      | some [b] => if 48 ≤ b && b ≤ 57 then some (.stream (b.toNat - 48)) else none
      | _ => none

def look (s : System) (cwd : Option Location) (path : Bytes) : Except Refusal Thing :=
  match device? path with
  | some thing => .ok thing
  | none =>
    match s.files.stat cwd path with
    | .ok .directory => .ok .directory
    | .ok (.file f) => .ok (.file f)
    | .error how => .error how

def exists_ (s : System) (cwd : Option Location) (path : Bytes) : Bool := (s.look cwd path).isOk

def names (s : System) (cwd : Option Location) (path : Bytes) : List Bytes :=
  match s.files.resolve cwd (if path.isEmpty then Path.dot else path) with
  | .ok (place,some .directory) => Path.dot :: Path.dotDot :: s.files.names place
  | _ => []

end System

structure Access where
  reads : Bool := false
  writes : Bool := false
  appends : Bool := false
  creates : Bool := false
  truncates : Bool := false

def System.open_ (s : System) (p : Process) (path : Bytes) (access : Access) :
    Except Refusal (Nat × System) :=
  match System.device? path with
  | some (.stream number) =>
    match p.streams.channel? number with
    | some id => .ok (id,s)
    | none => .error .noEntry
  | some (.device c) => .ok (s.establish c)
  | _ =>
    match s.files.resolve p.cwd path with
    | .error how => .error how
    | .ok (_,some .directory) => if access.writes then .error .isDirectory else .ok (s.establish .directory)
    | .ok (_,some (.file f)) =>
      let files := if access.truncates then s.files.modify f.id fun _ => [] else s.files
      .ok ({ s with files }.establish (.file f.id 0 access.appends access.reads access.writes))
    | .ok (_,none) =>
      if !access.creates then .error .noEntry
      else if path.getLast? == some Bytes.slash then .error .isDirectory
      else
        -- Permissions that the mask names are taken away.
        match s.files.openFile p.cwd path (0o666 - (0o666 &&& p.mask)) with
        | .ok (id,files) =>
          .ok ({ s with files }.establish (.file id 0 access.appends access.reads access.writes))
        | .error how => .error how

def name (p : Process) : Bytes := p.arguments.headD []

def operands (p : Process) : List Bytes := p.arguments.drop 1

end ScriptLauncher.Process
