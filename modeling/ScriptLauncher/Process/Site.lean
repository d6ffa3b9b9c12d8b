import ScriptLauncher.Process.System

namespace ScriptLauncher.Process

-- What can be asked about files, from the place where the question is put. All files belong to the
-- one user that there is, who may read and write them whatever their permissions are.

-- Where a condition is decided: the files, and the directory that paths start from.
structure Site where
  system : System
  cwd : Option Location

def Site.file (site : Site) (sign path : Bytes) : Bool :=
  let is (s : String) : Bool := sign == text s
  if is "-t" then false
  else match site.system.look site.cwd path with
    | .error _ => false
    | .ok .directory => ["-e","-r","-w","-x","-d","-s","-O","-G"].any is
    | .ok (.file f) =>
      ["-e","-r","-w","-f","-O","-G"].any is || (is "-x" && f.mode &&& 0o111 != 0) ||
        (is "-s" && !f.data.isEmpty) || (is "-u" && f.mode &&& 0o4000 != 0) ||
        (is "-g" && f.mode &&& 0o2000 != 0) || (is "-k" && f.mode &&& 0o1000 != 0)
    | .ok (.device _) => ["-e","-r","-w","-c","-O","-G"].any is
    | .ok (.stream _) => ["-e","-r","-w","-p","-O","-G","-h","-L"].any is

def Site.unary (site : Site) (sign operand : Bytes) : Bool :=
  if sign == text "-z" then operand.isEmpty
  else if sign == text "-n" then !operand.isEmpty
  else site.file sign operand

-- Which of two files is the newer one; a file has a higher identity than those before it.
def Site.age (site : Site) (a b : Bytes) (holds : Nat → Nat → Bool) : Bool :=
  match site.system.look site.cwd a,site.system.look site.cwd b with
  | .ok (.file f),.ok (.file g) => holds f.id g.id
  | _,_ => false

def Site.isSame (site : Site) (a b : Bytes) : Bool :=
  match site.system.files.resolve site.cwd a,site.system.files.resolve site.cwd b with
  | .ok (place,some _),.ok (other,some _) => place == other
  | _,_ => false

end ScriptLauncher.Process
