import ExampleSuite.Config
import ExampleSuite.Options.Help

/-!
Reading the arguments.

The arguments are read from the left. An option without an attached value takes the next
argument that does not look like an option itself, and is settled when the next option or flag
comes or at the end. A problem with a settled value is thus found before what follows it, but
not before an argument that is unknown.
-/

namespace ExampleSuite

inductive ColorMode where
  | auto
  | always
  | never
  deriving DecidableEq, Repr

namespace Arguments

/-- What has been given so far. -/
structure Given where
  examples : Option Path
  interpreter : Option Path
  extension : Option String
  timeout : Option Nat
  skips : List String
  patterns : List String
  rules : Option Path
  color : Option ColorMode
  verbose : Nat
  /-- The switches in the order in which they first came. -/
  seen : List Switch
  deriving DecidableEq, Repr

structure State where
  given : Given
  /-- An option that is not settled yet, with its value if that has come. -/
  pending : Option (Opt × Option Bytes)
  /-- Whether the mark that ends all options has come. -/
  ended : Bool
  deriving DecidableEq, Repr

def State.start : State :=
  ⟨⟨none, none, none, none, [], [], none, none, 0, []⟩, none, false⟩

abbrev Read (α : Type) := EStateM ArgProblem State α

def modifyGiven (f : Given → Given) : Read Unit := modify fun s => { s with given := f s.given }

/-! ### Values -/

def digits (n : Nat) : List Char → Except NumberProblem Nat
  | [] => .ok n
  | c :: cs =>
    if c.isDigit then
      let m := n * 10 + (c.toNat - 48)
      if m < 0x10000000000000000 then digits m cs else .error .tooLarge
    else .error .invalidDigit

/-- A number below `2^64`, with a plus sign in front or not. -/
def number : List Char → Except NumberProblem Nat
  | [] => .error .empty
  | ['+'] => .error .invalidDigit
  | '+' :: cs => digits 0 cs
  | cs => digits 0 cs

def color? (s : String) : Option ColorMode :=
  if s = "auto" then some .auto
  else if s = "always" then some .always
  else if s = "never" then some .never
  else none

def text (v : Bytes) : Read String :=
  match v.toString? with
  | some s => pure s
  | none => throw .notText

def path (o : Opt) (v : Bytes) : Read Path :=
  if v = [] then throw (.invalidValue o "") else pure v

/-- Keeps a value, if it is one for the option. -/
def store (o : Opt) (v : Bytes) : Read Unit :=
  match o with
  | .examples => do let p ← path o v; modifyGiven fun g => { g with examples := some p }
  | .interpreter => do let p ← path o v; modifyGiven fun g => { g with interpreter := some p }
  | .rules => do let p ← path o v; modifyGiven fun g => { g with rules := some p }
  | .extension => do let s ← text v; modifyGiven fun g => { g with extension := some s }
  | .skip => do let s ← text v; modifyGiven fun g => { g with skips := g.skips ++ [s] }
  | .skipPattern => do
    let s ← text v
    modifyGiven fun g => { g with patterns := g.patterns ++ [s] }
  | .timeout => do
    let s ← text v
    match number s.toList with
    | .ok n => modifyGiven fun g => { g with timeout := some n }
    | .error why => throw (.badNumber s why)
  | .color =>
    match v.toString?.bind color? with
    | some c => modifyGiven fun g => { g with color := some c }
    | none => throw (.invalidValue o v.display)

/-! ### Arguments -/

def mark (s : Switch) : Read Unit :=
  modifyGiven fun g => if g.seen.contains s then g else { g with seen := g.seen ++ [s] }

/-- Gives an option its value. Most may have only one. -/
def put (o : Opt) (v : Bytes) : Read Unit := do
  if !o.repeats && (← get).given.seen.contains (.opt o) then
    modifyGiven fun g => { g with seen := g.seen.erase (.opt o) }
    throw (.twice o)
  mark (.opt o)
  store o v

/-- Settles the option that is pending. -/
def settle : Read Unit := do
  let s ← get
  set { s with pending := none }
  match s.pending with
  | none => pure ()
  | some (o, none) => throw (.invalidValue o "")
  | some (o, some v) => put o v

/-- What has been seen once the pending option is settled, be it well or not. -/
def seenAfter (s : State) : List Switch :=
  match settle.run s with
  | .ok _ s => s.given.seen
  | .error _ s => s.given.seen

def giveFlag (f : Flag) : Read Unit := do
  settle
  match f with
  | .help => throw .helpAsked
  | .version => throw .versionAsked
  | .verbose =>
    mark (.flag f)
    modifyGiven fun g => { g with verbose := min 255 (g.verbose + 1) }

def switch? (name : Bytes) : Option Switch :=
  Switch.all.find? fun s => Bytes.ofString s.name == name

def giveLong (name : Bytes) (value : Option Bytes) : Read Unit := do
  match switch? name, value with
  | some (.opt o), some v => settle; put o v
  | some (.opt o), none =>
    settle
    modify fun s => { s with pending := some (o, none) }
  | some (.flag f), some v => throw (.surplusValue f v.display (← get).given.seen)
  | some (.flag f), none => giveFlag f
  | none, _ =>
    let seen := seenAfter (← get)
    throw (.unknown ("--" ++ name.display) (some (name.display, seen)))

def flag? (c : Char) : Option Flag := Flag.all.find? fun f => f.letter == c

/-- The flags of a cluster, up to the first letter that is none. -/
def giveShort : List (Option Char) → Bytes → Read Unit
  | some c :: cs, rest =>
    match flag? c with
    | some f => do giveFlag f; giveShort cs (rest.drop (Utf8.encodeChar c).length)
    | none => throw (.unknown (String.ofList ['-', c]) none)
  | none :: _, rest => throw (.unknown ("-" ++ rest.display) none)
  | [], _ => pure ()

/-- A name behind two dashes, with the value attached to it. -/
def long? : Bytes → Option (Bytes × Option Bytes)
  | 0x2D :: 0x2D :: r =>
    let name := r.takeWhile (· != 0x3D)
    some (name, if name.length < r.length then some (r.drop (name.length + 1)) else none)
  | _ => none

/-- What stands behind a single dash. -/
def short? : Bytes → Option Bytes
  | 0x2D :: r => if r = [] then none else some r
  | _ => none

def stray (a : Bytes) : Read Unit := throw (.unknown a.display none)

/-- Takes one argument. -/
def take (a : Bytes) : Read Unit := do
  let s ← get
  if s.ended then stray a
  else if a = [0x2D, 0x2D] then set { s with ended := true }
  else
    match long? a, short? a, s.pending with
    | some (name, value), _, _ => giveLong name value
    | none, some cluster, _ => giveShort (Utf8.parts cluster) cluster
    | none, none, some (o, none) => set { s with pending := some (o, some a) }
    | none, none, _ => stray a

/-- Lets a variable stand in for an option that was not given. -/
def fromEnv (o : Opt) (v : Option Bytes) : Read Unit := do
  match v with
  | some v => if !(← get).given.seen.contains (.opt o) then store o v
  | none => pure ()

def takeAll (e : Help.Env) (args : List Bytes) : Read Unit := do
  args.forM take
  settle
  fromEnv .examples e.examples
  fromEnv .interpreter e.interpreter

end Arguments

/-- The options of a run, with the standard values for all that was not given. -/
structure Options where
  examples : Path
  interpreter : Path
  extension : String
  /-- In seconds. -/
  timeout : Nat
  skips : List String
  patterns : List String
  rules : Option Path
  color : ColorMode
  verbose : Nat
  deriving DecidableEq, Repr

namespace Options

def ofGiven (g : Arguments.Given) : Options where
  examples := g.examples.getD Config.defaultRoot
  interpreter := g.interpreter.getD Config.defaultProgram
  extension := g.extension.getD Config.defaultExtension
  timeout := g.timeout.getD Config.defaultTimeout
  skips := g.skips
  patterns := g.patterns
  rules := g.rules
  color := g.color.getD .auto
  verbose := g.verbose

/-- The options that the arguments spell. -/
def read (e : Help.Env) (args : List Bytes) : Except ArgProblem Options :=
  match (Arguments.takeAll e args).run .start with
  | .ok _ s => .ok (ofGiven s.given)
  | .error p _ => .error p

end Options

end ExampleSuite
