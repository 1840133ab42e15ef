import ExampleSuite.Text.Likeness
import ExampleSuite.Text.Lines
import ExampleSuite.Text.Screen
import ExampleSuite.Text.Utf8

/-!
The options of the command line and what can be wrong with them.

An option takes a value, which may be attached to its name by an equals sign. A flag takes
none. What is wrong is told in a line, with what may help below it. Of what was given only that
is told which a screen shows.
-/

namespace ExampleSuite

inductive Opt where
  | examples
  | interpreter
  | extension
  | timeout
  | skip
  | skipPattern
  | rules
  | color
  deriving DecidableEq, Repr

inductive Flag where
  | verbose
  | help
  | version
  deriving DecidableEq, Repr

/-- What can be given on the command line. -/
inductive Switch where
  | opt (o : Opt)
  | flag (f : Flag)
  deriving DecidableEq, Repr

namespace Opt

def all : List Opt :=
  [examples, interpreter, extension, timeout, skip, skipPattern, rules, color]

def name : Opt → String
  | examples => "examples"
  | interpreter => "interpreter"
  | extension => "extension"
  | timeout => "timeout"
  | skip => "skip"
  | skipPattern => "skip-pattern"
  | rules => "rules"
  | color => "color"

def valueName : Opt → String
  | examples => "DIR"
  | interpreter => "PATH"
  | extension => "EXT"
  | timeout => "SECS"
  | skip => "NAME"
  | skipPattern => "TEXT"
  | rules => "FILE"
  | color => "COLOR"

/-- Whether the option may be given more than once. -/
def repeats : Opt → Bool
  | skip | skipPattern => true
  | _ => false

def shown (o : Opt) : String := s!"--{o.name} <{o.valueName}>"

def choices : Opt → List String
  | color => ["auto", "always", "never"]
  | _ => []

def choiceNote (o : Opt) : String := "[possible values: " ++ ", ".intercalate o.choices ++ "]"

end Opt

namespace Flag

def all : List Flag := [verbose, help, version]

def name : Flag → String
  | verbose => "verbose"
  | help => "help"
  | version => "version"

def letter : Flag → Char
  | verbose => 'v'
  | help => 'h'
  | version => 'V'

def shown : Flag → String
  | verbose => "--verbose..."
  | f => "--" ++ f.name

end Flag

namespace Switch

def all : List Switch := Opt.all.map .opt ++ Flag.all.map .flag

def name : Switch → String
  | opt o => o.name
  | flag f => f.name

def shown : Switch → String
  | opt o => o.shown
  | flag f => f.shown

end Switch

/-- Why a text is not a number. -/
inductive NumberProblem where
  | empty
  | invalidDigit
  | tooLarge
  deriving DecidableEq, Repr

def NumberProblem.text : NumberProblem → String
  | empty => "cannot parse integer from empty string"
  | invalidDigit => "invalid digit found in string"
  | tooLarge => "number too large to fit in target type"

/-- Why the arguments do not lead to a run. -/
inductive ArgProblem where
  | helpAsked
  | versionAsked
  /-- An argument that is not known. For one that looks like a long name there is what was
  given before it. -/
  | unknown (shown : String) (long : Option (String × List Switch))
  /-- The value that is missing, or that is not one of the choices. -/
  | invalidValue (o : Opt) (value : String)
  | badNumber (value : String) (why : NumberProblem)
  | twice (o : Opt)
  /-- A value attached to a flag, after what was given before. -/
  | surplusValue (f : Flag) (value : String) (used : List Switch)
  | notText
  deriving DecidableEq, Repr

namespace ArgProblem

def exitStatus : ArgProblem → Nat
  | helpAsked | versionAsked => 0
  | _ => 2

/-- The line that says what is wrong. -/
def line : ArgProblem → String
  | helpAsked | versionAsked => ""
  | unknown s _ => s!"error: unexpected argument '{Screen.shown s}' found"
  | invalidValue o "" =>
    s!"error: a value is required for '{o.shown}' but none was supplied"
  | invalidValue o v => s!"error: invalid value '{Screen.shown v}' for '{o.shown}'"
  | badNumber v why =>
    s!"error: invalid value '{Screen.shown v}' for '{Opt.timeout.shown}': {why.text}"
  | twice o => s!"error: the argument '{o.shown}' cannot be used multiple times"
  | surplusValue f v _ =>
    s!"error: unexpected value '{Screen.shown v}' for '{f.shown}' found; no more were expected"
  | notText => "error: invalid UTF-8 was detected in one or more arguments"

/-- What is left of the line that says what is wrong when it breaks within a value. -/
def headline (p : ArgProblem) : String := Lines.head p.line

/-- A switch whose name is close to what was given. -/
def meant (name : String) : Option Switch :=
  (Likeness.closest name (Switch.all.map Switch.name)).bind fun n =>
    Switch.all.find? fun s => s.name == n

def usageOf (what : String) : String := "Usage: franz-examples " ++ what

def usage (used : List Switch) : String :=
  usageOf (if used.isEmpty then "[OPTIONS]" else " ".intercalate (used.map Switch.shown))

/-- The switches that a run knows. The others end the program. -/
def settings : List Switch := Opt.all.map .opt ++ [.flag .verbose]

/-- The usage for a flag where something of the settings is used: they are a choice then. -/
def usageBeside (f : Flag) : String :=
  let choice := "<" ++ "|".intercalate (settings.map Switch.shown) ++ ">"
  usageOf (if settings.contains (.flag f) then choice else f.shown ++ " " ++ choice)

/-- The lines below the first that are set off by blank lines. -/
def notes : ArgProblem → List String
  | helpAsked | versionAsked | badNumber _ _ => []
  | unknown _ none | twice _ | notText => [usage []]
  | unknown _ (some (name, used)) =>
    match meant name with
    | none => [usage used]
    | some s =>
      [s!"  tip: a similar argument exists: '--{s.name}'",
        usage (if used.contains s then used else used ++ [s])]
  | invalidValue o v =>
    match Likeness.closest v o.choices with
    | none => []
    | some c => [s!"  tip: a similar value exists: '{c}'"]
  | surplusValue f _ used => [if used.isEmpty then usage [.flag f] else usageBeside f]

/-- The choices that there are, right below the first line. -/
def choices : ArgProblem → List String
  | invalidValue o _ =>
    if o.choices.isEmpty then []
    else ["  " ++ o.choiceNote]
  | _ => []

/-- All lines that tell what is wrong. -/
def lines (p : ArgProblem) : List String :=
  p.line :: p.choices ++ p.notes.flatMap (["", ·]) ++ ["", "For more information, try '--help'."]

end ArgProblem

end ExampleSuite
