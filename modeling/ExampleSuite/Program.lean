import ExampleSuite.Diagnostic
import ExampleSuite.Harness
import ExampleSuite.Log.Filter
import ExampleSuite.Options
import ExampleSuite.Options.Help

/-!
The program: from arguments to an exit status.

Arguments that do not lead to a run are answered at once. Otherwise the program runs the
examples, tells on its error output what the filter lets through, and shows there the failure
that ended the run, if one did.
-/

namespace ExampleSuite.Program

variable {σ : Type}

/-- What the variables say that the program reads, and where its log goes. -/
structure Env where
  options : Help.Env
  log : Option Bytes
  look : Diagnostic.Look
  outlet : Outlet
  deriving DecidableEq, Repr

/-- The environment of a program whose log goes to a pipe. -/
def Env.ofVariables (get : String → Option Bytes) : Env where
  options := ⟨get "FRANZ_EXAMPLES_DIR", get "FRANZ_INTERPRETER"⟩
  log := get "RUST_LOG"
  look := .ofVariables fun k => (get k).bind Bytes.toString?
  outlet := ⟨false, get "TERM", (get "NO_COLOR").isSome⟩

/-- The same where the log goes to a terminal or not. -/
def Env.shownOn (env : Env) (terminal : Bool) : Env :=
  { env with outlet := { env.outlet with terminal } }

/-- What is left of a program that has ended. -/
structure Ending where
  status : Nat
  out : Bytes
  err : List String
  deriving DecidableEq, Repr

/-- The answer to arguments that do not lead to a run. -/
def decline (e : Help.Env) (p : ArgProblem) : Ending :=
  match p with
  | .helpAsked => ⟨p.exitStatus, Bytes.ofString (Help.text e), []⟩
  | .versionAsked => ⟨p.exitStatus, Bytes.ofString Help.version, []⟩
  | p => ⟨p.exitStatus, [], p.lines⟩

def style (x : Outlet) (o : Options) : Report.Style := if o.coloured x then .ansi else .plain

/-- Finds out what is to be run and runs it. -/
def work (h : Host σ) (x : Outlet) (o : Options) : Act σ Summary := do
  Harness.run h (style x o) (← o.config h.disk h.cwd)

/-- What has been told and is let through, line by line. -/
def logLines (f : Log.Filter) (pid : Nat → String) (told : List Log.Event) : List String :=
  (told.filter f.enabled).map (·.line pid)

/-- The ending after a run, with process numbers shown as the given function says. -/
def ending (look : Diagnostic.Look) (f : Log.Filter) (pid : Nat → String) :
    EStateM.Result Failure (Session σ) Summary → Ending × σ
  | .ok sum s => (⟨sum.exitStatus, s.out.written, logLines f pid s.told⟩, s.world)
  | .error e s =>
    (⟨e.exitStatus, s.out.written, logLines f pid s.told ++ Diagnostic.lines look e⟩, s.world)

def run (h : Host σ) (env : Env) (pid : Nat → String) (argv : List Bytes) (w : σ) :
    Ending × σ :=
  match Options.read env.options argv with
  | .error p => (decline env.options p, w)
  | .ok o => ending env.look (.choose env.log o.verbose) pid
    ((work h env.outlet o).run (.start w none))

end ExampleSuite.Program
