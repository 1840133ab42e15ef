import ExampleSuite.Config
import ExampleSuite.Disk
import ExampleSuite.Failure

/-!
What is checked of an interpreter before anything runs.

A program without a directory in its path is looked up when it is started. Any other must be
a file already.
-/

namespace ExampleSuite.Interpreter

def verify (i : Interpreter) (t : Tree) (cwd : Place) : Except Failure Unit :=
  if i.budget = 0 then .error .invalidTimeout
  else if 1 < Path.partCount i.program && !t.isFile cwd i.program then
    .error (.interpreterNotFound i.program)
  else .ok ()

end ExampleSuite.Interpreter
