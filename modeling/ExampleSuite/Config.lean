import ExampleSuite.Exclusion

/-!
What a run is asked to do.
-/

namespace ExampleSuite

/-- The program that runs an example and the time it has, in milliseconds. -/
structure Interpreter where
  program : Path
  budget : Nat
  deriving DecidableEq, Repr

structure Config where
  root : Path
  extension : String
  interpreter : Interpreter
  rules : Exclusions
  deriving DecidableEq, Repr

namespace Config

def defaultRoot : Path := Bytes.ofString "examples"
def defaultExtension : String := "franz"
def defaultProgram : Path := Bytes.ofString "./franz"

/-- In seconds. -/
def defaultTimeout : Nat := 10

def default : Config :=
  ⟨defaultRoot, defaultExtension, ⟨defaultProgram, defaultTimeout * 1000⟩, .builtin⟩

end Config

end ExampleSuite
