import ExampleSuite.Options.Reader
import ExampleSuite.RuleFile.Load

/-!
From options to what a run is asked to do.
-/

namespace ExampleSuite

/-- What is known of the place that the log goes to. -/
structure Outlet where
  terminal : Bool
  /-- The kind of terminal that the environment tells of. -/
  kind : Option Bytes
  /-- The environment asks for no colours. -/
  bare : Bool
  deriving DecidableEq, Repr

namespace Outlet

/-- A place that is no terminal. -/
def pipe : Outlet := ⟨false, none, false⟩

/-- The environment allows colours: it tells of a terminal that is not a dumb one, and does not ask
for none. -/
def allows (x : Outlet) : Bool := x.kind.any (· != Bytes.ofString "dumb") && !x.bare

end Outlet

namespace Options

variable {σ : Type}

/-- The colour mode, once it is known whether a terminal shows the log. Nothing else is coloured
unless it is asked for. -/
def choice (o : Options) (terminal : Bool) : ColorMode :=
  match o.color with
  | .auto => if terminal then .auto else .never
  | m => m

/-- Whether the log is coloured. -/
def coloured (o : Options) (x : Outlet := .pipe) : Bool :=
  match o.choice x.terminal with
  | .auto => x.allows
  | .always => true
  | .never => false

/-- The rules come from a file or are the standard ones, and the options add to them. -/
def config (o : Options) (disk : σ → Disk) (cwd : Place) : Act σ Config := do
  let rules ← match o.rules with
    | some p => RuleFile.load disk cwd p
    | none => pure Exclusions.builtin
  return {
    root := o.examples
    extension := o.extension
    interpreter := ⟨o.interpreter, o.timeout * 1000⟩
    rules := (rules.addFiles o.skips).addPatterns o.patterns }

end Options

end ExampleSuite
