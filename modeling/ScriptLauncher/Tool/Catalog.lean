import ScriptLauncher.Tool.Arrange
import ScriptLauncher.Tool.Condition
import ScriptLauncher.Tool.Edit
import ScriptLauncher.Tool.Expression
import ScriptLauncher.Tool.Files
import ScriptLauncher.Tool.Print
import ScriptLauncher.Tool.Selection

namespace ScriptLauncher.Tool

-- The programs of the host by their names.

open Process (System Ending)

-- What each program does. Some carry out others.
def catalog (execute : Surroundings.Execute) : List (String × Work Unit) :=
  [("true",Surroundings.nothing 0),("false",Surroundings.nothing 1),("pwd",Surroundings.directory),
    ("printenv",Surroundings.variables_),("env",Surroundings.environment execute),
    ("basename",Surroundings.baseNames),("dirname",Surroundings.parents),("sleep",Surroundings.pause),
    ("echo",Print.echo),("printf",Print.printf),("test",Condition.test false),("[",Condition.test true),
    ("expr",Expression.expression),("grep",Selection.choose),("sed",Edit.edit),
    ("cat",Lines.concatenate),("head",Lines.head),("tail",Lines.tail),
    ("tac",Lines.backwards),("wc",Lines.tally),("tee",Lines.tee),("seq",Lines.sequence),
    ("sort",Arrange.sort),("uniq",Arrange.unique),("cut",Arrange.cut),("tr",Arrange.substitute),
    ("ls",Files.listing),("mkdir",Files.makeDirectories),("rmdir",Files.removeDirectories),
    ("rm",Files.remove),("touch",Files.touch),("cp",Files.copy),("mv",Files.move),
    ("chmod",Files.changeMode)]

def start (execute : Surroundings.Execute) (p : Process) (name : Bytes) (s : System) : Ending × System :=
  match (catalog execute).find? fun (known,_) => text known == name with
  | some (_,work) => work.toEnd p s
  | none => (.status 127,s)

end ScriptLauncher.Tool
