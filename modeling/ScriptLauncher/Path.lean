import ScriptLauncher.Text.Bytes

namespace ScriptLauncher.Path

-- Paths as texts. `clean` gives the shortest path with the same meaning by lexical rules alone: no
-- doubled or trailing slash, no `.` component, and no `..` after a name. `join` puts components
-- together and cleans the result. Nothing here looks at a file system.

def dot : Bytes := [46]
def dotDot : Bytes := [46,46]

def isAbsolute : Bytes → Bool
  | b :: _ => b == Bytes.slash
  | [] => false

-- The components between slashes; an absolute path starts with an empty one.
def components (path : Bytes) : List Bytes := Bytes.splitOn Bytes.slash path

-- One component on top of the components kept so far, innermost first. At the root a `..` has
-- nowhere to go; in a relative path it stays when there is no name to take back.
def push (rooted : Bool) (kept : List Bytes) (part : Bytes) : List Bytes :=
  if part.isEmpty || part == dot then kept
  else if part == dotDot then
    match kept with
    | [] => if rooted then [] else [dotDot]
    | top :: rest => if top == dotDot then dotDot :: kept else rest
  else part :: kept

def reduce (rooted : Bool) (parts : List Bytes) : List Bytes :=
  (parts.foldl (push rooted) []).reverse

-- A path from its components. The empty relative path is written `.`.
def render (rooted : Bool) (parts : List Bytes) : Bytes :=
  if rooted then Bytes.slash :: Bytes.join [Bytes.slash] parts
  else if parts.isEmpty then dot
  else Bytes.join [Bytes.slash] parts

def clean (path : Bytes) : Bytes :=
  render (isAbsolute path) (reduce (isAbsolute path) (components path))

-- Components joined by slashes and cleaned. Empty components are passed over, and nothing at all
-- gives the empty path.
def join (parts : List Bytes) : Bytes :=
  match parts.filter fun part => !part.isEmpty with
  | [] => []
  | kept => clean (Bytes.join [Bytes.slash] kept)

def parent (path : Bytes) : Bytes :=
  clean ((path.reverse.dropWhile (· != Bytes.slash)).reverse)

def suffix (path : Bytes) : Bytes :=
  let name := (path.reverse.takeWhile (· != Bytes.slash)).reverse
  if name.contains 46 then 46 :: (name.reverse.takeWhile (· != 46)).reverse else []

end ScriptLauncher.Path
