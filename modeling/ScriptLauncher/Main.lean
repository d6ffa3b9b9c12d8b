import ScriptLauncher.Child
import ScriptLauncher.Footprint
import ScriptLauncher.RunId
import ScriptLauncher.Text.Calendar
import ScriptLauncher.Toml.Document
import ScriptLauncher.Yaml.Document

namespace ScriptLauncher.Main

-- The command line. This layer reads what a run looks at into a host, lets the program run on it,
-- and writes back the files that changed. Commands are carried out by the shell of this library.

def decoders : Decoders := ⟨Toml.decode,Yaml.decode⟩

def bytesOf (data : ByteArray) : Bytes := data.toList

def arrayOf (s : Bytes) : ByteArray := ⟨s.toArray⟩

def pathText? (path : Bytes) : Option String := (Utf8.chars? path).map String.ofList

def terminated (data : Bytes) : List Bytes := (Bytes.splitOn 0 data).dropLast

def observe (host : Host) (path : Bytes) : IO Host := do
  match pathText? path with
  | none => return host
  | some name =>
    let target := (← IO.currentDir) / name
    if ← target.isDir then return host.makeDirectory path
    else if ← target.pathExists then
      try return host.put path (bytesOf (← IO.FS.readBinFile target)) 0o644
      catch _ => return host
    else return host

def observeAll (host : Host) (paths : List Bytes) : IO Host := paths.foldlM observe host

-- The host of a run: the working directory, the known programs and the run's footprint.
def loadHost (vars : Variables) : IO Host := do
  let workDir := text (← IO.currentDir).toString
  let bare : Host := ⟨.empty,some [],vars⟩
  let host := ((Child.equip bare).makeDirectory workDir).changeDirectory workDir
  let host ← observeAll host (Footprint.settings host workDir)
  let sources : Sources := ⟨workDir,host.getenv Options.configName,Settings.defaultGlobalDir host⟩
  let found := (Settings.load decoders sources host).toOption.getD .default
  let host ← observeAll host (Footprint.launch host workDir found.launcher)
  let host ← observeAll host (Footprint.repository host workDir)
  observeAll host (Footprint.shared host workDir)

def saveChanges (changes : List (Bytes × Bytes)) : IO Unit :=
  changes.forM fun (path,data) => do
    match pathText? path with
    | none => return
    | some name =>
      let target := (← IO.currentDir) / name
      try
        if let some dir := target.parent then IO.FS.createDirAll dir
        IO.FS.writeBinFile target (arrayOf data)
      catch _ => return

def number (s : String) : Nat :=
  Numeral.decimal (s.toList.takeWhile Numeral.isDigit)

-- Seconds since 1970: the time of the last start of the system and the time since then.
def clockSeconds : IO Nat := do
  let boot := ((← IO.FS.lines "/proc/stat").toList.filterMap fun line =>
    (Bytes.after? (text "btime ") (text line)).map fun rest =>
      Numeral.decimal ((rest.map fun b => Char.ofNat b.toNat).takeWhile Numeral.isDigit)).headD 0
  return boot + number (← IO.FS.readFile "/proc/uptime")

def moment (seconds : Nat) : Log.Moment :=
  let (year,month,day) := Calendar.ofDays (seconds / 86400)
  ⟨year,month,day,seconds / 3600 % 24,seconds / 60 % 60,seconds % 60⟩

def randomBytes (count : Nat) : IO (List UInt8) :=
  (List.range count).mapM fun _ => do return UInt8.ofNat (← IO.rand 0 255)

def run : IO UInt32 := do
  let argv := terminated (bytesOf (← IO.FS.readBinFile "/proc/self/cmdline"))
  let entries := terminated (bytesOf (← IO.FS.readBinFile "/proc/self/environ"))
  let host ← loadHost (Variables.ofAssignments entries)
  let clock := moment (← clockSeconds)
  let runId := RunId.ofBytes (← randomBytes 16)
  let setup (input : Bytes) : Setup :=
    { decoders,execute := Child.execute input,clock,runId }
  -- The input belongs to the child, so it is left alone where there is none.
  let input ← if (Program.run (setup []) argv host).commands.isEmpty then pure []
    else bytesOf <$> (← IO.getStdin).readBinToEnd
  let outcome := Program.run (setup input) argv host
  saveChanges (Footprint.changes host outcome.host)
  (← IO.getStdout).write (arrayOf (outcome.ending.output ++ outcome.childOutput))
  (← IO.getStderr).write (arrayOf (outcome.ending.errors ++ outcome.childErrors))
  return UInt32.ofNat (outcome.ending.code % 256).toNat

end ScriptLauncher.Main

def main : IO UInt32 := ScriptLauncher.Main.run
