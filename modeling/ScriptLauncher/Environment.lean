import ScriptLauncher.Text.Bytes

namespace ScriptLauncher

-- Process environments: assignments `NAME=VALUE` in order. Setting a name that is there keeps its
-- place. `merge` is the environment of a child: the parent's assignments first, then one assignment
-- per variable, by name.

abbrev Variables := List (Bytes × Bytes)

-- Name and value at the first equals sign; an entry without one is a name without value.
def assignment (entry : Bytes) : Bytes × Bytes :=
  (Bytes.cut (byte '=') entry).getD (entry,[])

namespace Variables

def set (vars : Variables) (name value : Bytes) : Variables :=
  if vars.any (·.1 == name) then
    vars.map fun (n,v) => if n == name then (n,value) else (n,v)
  else vars ++ [(name,value)]

def unset (vars : Variables) (name : Bytes) : Variables := vars.filter (·.1 != name)

def get? (vars : Variables) (name : Bytes) : Option Bytes :=
  (vars.find? (·.1 == name)).map (·.2)

def value (vars : Variables) (name : Bytes) : Bytes := (vars.get? name).getD []

def sorted (vars : Variables) : Variables :=
  vars.mergeSort fun a b => Bytes.le a.1 b.1

def assignments (vars : Variables) : List Bytes :=
  vars.map fun (name,value) => name ++ byte '=' :: value

def ofAssignments (entries : List Bytes) : Variables :=
  entries.foldl (fun vars entry => vars.set (assignment entry).1 (assignment entry).2) []

end Variables

namespace Environment

def merge (base : List Bytes) (vars : Variables) : List Bytes :=
  base ++ vars.sorted.assignments

-- The value a child sees: of several entries with one name the last counts.
def lookup (entries : List Bytes) (name : Bytes) : Option Bytes :=
  (entries.reverse.find? fun entry => entry.contains (byte '=') && (assignment entry).1 == name).map
    fun entry => (assignment entry).2

end Environment

end ScriptLauncher
