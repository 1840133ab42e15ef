import ExampleSuite.Options.Problem

/-!
The help text: every option and flag on a line, in two columns.

The text is written with the names in bold, and only what a screen shows of it is told. What a
variable holds may thus hide what follows it, up to the next name.
-/

namespace ExampleSuite.Help

/-- The values of the two variables that stand in for options. -/
structure Env where
  examples : Option Bytes
  interpreter : Option Bytes
  deriving DecidableEq, Repr

def Env.empty : Env := ⟨none, none⟩

def Opt.about : Opt → String
  | .examples => "Directory searched recursively for example files"
  | .interpreter => "Interpreter executable; receives each example path as its only argument"
  | .extension => "Extension of example files, without the dot"
  | .timeout => "Seconds each example may run before it is killed"
  | .skip => "Skip examples with this exact file name (repeatable)"
  | .skipPattern => "Skip examples whose path contains this text (repeatable)"
  | .rules => "YAML file replacing the built-in exclusion rules"
  | .color => "When to colour outcome markers"

def Flag.about : Flag → String
  | .verbose => "Raise diagnostic logging on stderr (-v info, -vv debug, -vvv trace)"
  | .help => "Print help"
  | .version => "Print version"

def envOf (e : Env) : Opt → Option (String × Option Bytes)
  | .examples => some ("FRANZ_EXAMPLES_DIR", e.examples)
  | .interpreter => some ("FRANZ_INTERPRETER", e.interpreter)
  | _ => none

def standard : Opt → Option String
  | .examples => some "examples"
  | .interpreter => some "./franz"
  | .extension => some "franz"
  | .timeout => some "10"
  | .color => some "auto"
  | _ => none

/-- The column in which the descriptions stand. -/
def margin : Nat := 29

def pad (n : Nat) (s : String) : String := s ++ String.ofList (List.replicate (n - s.length) ' ')

/-- A text whose further lines start at the margin. -/
def hang (s : String) : String := ("\n" ++ pad margin "").intercalate (s.splitOn "\n")

/-- What stands in brackets behind the description of an option. -/
def brackets (e : Env) (o : Opt) : List String :=
  ((envOf e o).map fun v =>
    s!"[env: {v.1}={Bytes.display (v.2.getD [])}]").toList ++
  ((standard o).map fun d => s!"[default: {d}]").toList ++
  (if o.choices.isEmpty then [] else [o.choiceNote])

/-- The first column, with a name in bold. -/
def label (lead name rest : String) : String :=
  lead ++ Screen.bold name ++ pad (margin - (lead ++ name).length) rest

def optLine (e : Env) (o : Opt) : String :=
  label "      " ("--" ++ o.name) (s!" <{o.valueName}>") ++
    hang (" ".intercalate (Opt.about o :: brackets e o))

def flagLine (f : Flag) : String :=
  let dots := if f = .verbose then "..." else ""
  label s!"  -{f.letter}, " ("--" ++ f.name) dots ++ Flag.about f

def lines (e : Env) : List String :=
  ["Run every Franz example through the interpreter and report pass/fail.", "",
    ArgProblem.usage [], "", "Options:"] ++ Opt.all.map (optLine e) ++ Flag.all.map flagLine

def text (e : Env) : String := Screen.shown (String.join ((lines e).map (· ++ "\n")))

def version : String := "franz-examples 0.1.0\n"

end ExampleSuite.Help
