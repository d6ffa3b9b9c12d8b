import ScriptLauncher.Text.Bytes

namespace ScriptLauncher.Process.Signal

-- Signals by number, with their short names and the words that describe a process that one has
-- ended.

def table : List (Nat × String × String) :=
  [(1,"HUP","hangup"),(2,"INT","interrupt"),(3,"QUIT","quit"),(4,"ILL","illegal instruction"),
    (5,"TRAP","trace/breakpoint trap"),(6,"ABRT","aborted"),(7,"BUS","bus error"),
    (8,"FPE","floating point exception"),(9,"KILL","killed"),(10,"USR1","user defined signal 1"),
    (11,"SEGV","segmentation fault"),(12,"USR2","user defined signal 2"),(13,"PIPE","broken pipe"),
    (14,"ALRM","alarm clock"),(15,"TERM","terminated"),(16,"16","stack fault"),
    (17,"CHLD","child exited"),(18,"CONT","continued"),(19,"STOP","stopped (signal)"),
    (20,"TSTP","stopped"),(21,"TTIN","stopped (tty input)"),(22,"TTOU","stopped (tty output)"),
    (23,"URG","urgent I/O condition"),(24,"XCPU","CPU time limit exceeded"),
    (25,"XFSZ","file size limit exceeded"),(26,"VTALRM","virtual timer expired"),
    (27,"PROF","profiling timer expired"),(28,"WINCH","window changed"),(29,"IO","I/O possible"),
    (30,"PWR","power failure"),(31,"SYS","bad system call")]

def count : Nat := 65

-- The short name. The signals for real time are named from both ends of their range.
def name (number : Nat) : Bytes :=
  match table.lookup number with
  | some (short,_) => text short
  | none =>
    if number < 34 then Bytes.ofNat number
    else if number == 34 then text "RTMIN"
    else if number < 50 then text "RTMIN+" ++ Bytes.ofNat (number - 34)
    else if number < 64 then text "RTMAX-" ++ Bytes.ofNat (64 - number)
    else text "RTMAX"

def description (number : Nat) : Bytes :=
  match table.lookup number with
  | some (_,words) => text words
  | none => text "signal " ++ Bytes.ofNat number

def sentence (number : Nat) : Bytes :=
  if table.any (·.1 == number) then
    match description number with
    | b :: rest => (if 97 ≤ b && b ≤ 122 then b - 32 else b) :: rest
    | [] => []
  else if 34 ≤ number then text "Real-time signal " ++ Bytes.ofNat (number - 34)
  else text "Unknown signal " ++ Bytes.ofNat number

def isHarmless (number : Nat) : Bool := [17,18,23,28].contains number

def stops (number : Nat) : Bool := [19,20,21,22].contains number

def number? (word : Bytes) : Option Nat :=
  if !word.isEmpty && word.all fun b => 48 ≤ b && b ≤ 57 then
    some (word.foldl (fun n b => n * 10 + (b.toNat - 48)) 0)
  else none

-- The signal that a word means: a number, or a short name in letters of any case. Zero stands for
-- the end of a shell, which is no signal.
def ofWord? (word : Bytes) (least : Nat) : Option Nat :=
  match number? word with
  | some n => if n < count then some n else none
  | none =>
    let isNamed (n : Nat) : Bool := Bytes.lower (name n) == Bytes.lower word
    if least == 0 && Bytes.lower word == text "exit" then some 0
    else (List.range count).find? fun n => max 1 least ≤ n && isNamed n

end ScriptLauncher.Process.Signal
