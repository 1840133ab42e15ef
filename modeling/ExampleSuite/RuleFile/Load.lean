import ExampleSuite.Disk
import ExampleSuite.Session

/-!
Reading the rules from a file.
-/

namespace ExampleSuite.RuleFile

variable {σ : Type}

/-- The rules of a file. How many there are is told. -/
def load (disk : σ → Disk) (cwd : Place) (p : Path) : Act σ Exclusions := do
  match (← Act.look disk).readText cwd p with
  | .error c => throw (.ruleFile p c)
  | .ok text =>
    match parse text with
    | .error e => throw (.ruleFileFormat p e)
    | .ok x =>
      Act.tell (.rulesLoaded p x.files.length x.patterns.length)
      return x

end ExampleSuite.RuleFile
