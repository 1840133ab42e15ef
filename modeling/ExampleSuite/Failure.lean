import ExampleSuite.Errno
import ExampleSuite.RuleFile

/-!
What can end a run before its summary.

Only problems of the configuration and of the run itself are failures. An example that fails
or hangs is an outcome.
-/

namespace ExampleSuite

inductive Failure where
  | missingCorpus (path : Path)
  | unreadableCorpus (path : Path) (source : Cause)
  | interpreterNotFound (path : Path)
  | ruleFile (path : Path) (source : Cause)
  | ruleFileFormat (path : Path) (source : RuleFile.FormatError)
  | invalidTimeout
  | spawn (interpreter : Path) (source : Cause)
  | wait (path : Path) (source : Cause)
  | runtime (source : Cause)
  | interrupted
  | output (source : Cause)

namespace Failure

def message : Failure → String
  | missingCorpus p =>
    s!"examples directory '{Bytes.display p}' does not exist or is not a directory"
  | unreadableCorpus p _ => s!"examples directory '{Bytes.display p}' cannot be read"
  | interpreterNotFound p => s!"interpreter '{Bytes.display p}' not found"
  | ruleFile p _ => s!"failed to read rule file '{Bytes.display p}'"
  | ruleFileFormat p _ => s!"rule file '{Bytes.display p}' is not valid YAML"
  | invalidTimeout => "timeout must be greater than zero"
  | spawn p _ => s!"failed to start interpreter '{Bytes.display p}'"
  | wait p _ => s!"lost track of the interpreter process for '{Bytes.display p}'"
  | runtime _ => "failed to start the async runtime"
  | interrupted => "interrupted"
  | output _ => "failed to write report"

/-- The name under which a failure can be looked up. -/
def code (f : Failure) : String :=
  "franz_examples::" ++ match f with
    | missingCorpus _ => "config::missing_corpus"
    | unreadableCorpus _ _ => "config::unreadable_corpus"
    | interpreterNotFound _ => "config::missing_interpreter"
    | ruleFile _ _ => "config::rule_file"
    | ruleFileFormat _ _ => "config::rule_file_format"
    | invalidTimeout => "config::timeout"
    | spawn _ _ => "exec::spawn"
    | wait _ _ => "exec::wait"
    | runtime _ => "runtime"
    | interrupted => "interrupted"
    | output _ => "output"

def help : Failure → Option String
  | missingCorpus _ => some "run from the repository root or pass --examples <DIR>"
  | unreadableCorpus _ _ => some "check the directory's permissions"
  | interpreterNotFound _ => some "build the interpreter first or pass --interpreter <PATH>"
  | ruleFileFormat _ _ =>
    some "expected a mapping with optional `skip_files` and `skip_patterns` string lists"
  | _ => none

/-- The text of the failure behind a failure. -/
def source : Failure → Option String
  | unreadableCorpus _ c | ruleFile _ c | spawn _ c | wait _ c | runtime c | output c =>
    some c.message
  | ruleFileFormat _ e => some e.message
  | missingCorpus _ | interpreterNotFound _ | invalidTimeout | interrupted => none

/-- The statuses `0` and `1` belong to runs that reach their summary. -/
def exitStatus : Failure → Nat
  | interrupted => 130
  | _ => 2

end Failure

end ExampleSuite
