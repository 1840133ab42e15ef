import ExampleSuite.Exclusion
import ExampleSuite.Errno

/-!
What the program tells about its own work.

An event has a level, the part of the program it comes from, named fields and a message. Its
text is the message followed by the fields.
-/

namespace ExampleSuite.Log

inductive Level where
  | error
  | warn
  | info
  | debug
  | trace
  deriving DecidableEq, Repr

namespace Level

/-- The more there is to tell at a level, the higher its rank. -/
def rank : Level → Nat
  | error => 1
  | warn => 2
  | info => 3
  | debug => 4
  | trace => 5

def name : Level → String
  | error => "ERROR"
  | warn => "WARN"
  | info => "INFO"
  | debug => "DEBUG"
  | trace => "TRACE"

end Level

/-- The parts of the program that tell something. -/
inductive Part where
  | discovery
  | exclusion
  | ruleFile
  | execution
  | harness
  deriving DecidableEq, Repr

def Part.target : Part → String
  | discovery => "franz_examples::discovery"
  | exclusion => "franz_examples::policy"
  | ruleFile => "franz_examples::rules"
  | execution => "franz_examples::execution"
  | harness => "franz_examples::harness"

inductive Event where
  | opened (root : Path) (extension : String)
  | unreadable (path : Path) (e : Errno)
  | nameListed (path : Path)
  | patternFound (path : Path) (pattern : String)
  | rulesLoaded (path : Path) (files patterns : Nat)
  | running (path : Path)
  | started (pid : Nat) (path : Path)
  | drained (out err : Nat)
  | overran (path : Path) (budget : Nat)
  | stopped (path : Path)
  | finished (passed failed skipped total : Nat)
  deriving DecidableEq, Repr

namespace Event

def level : Event → Level
  | unreadable _ _ | overran _ _ | stopped _ => .warn
  | finished _ _ _ _ => .info
  | opened _ _ | nameListed _ | patternFound _ _ | rulesLoaded _ _ _ | running _ | started _ _ =>
    .debug
  | drained _ _ => .trace

def part : Event → Part
  | opened _ _ | unreadable _ _ => .discovery
  | nameListed _ | patternFound _ _ => .exclusion
  | rulesLoaded _ _ _ => .ruleFile
  | started _ _ | drained _ _ | overran _ _ | stopped _ => .execution
  | running _ | finished _ _ _ _ => .harness

def message : Event → String
  | opened _ _ => "opened example corpus"
  | unreadable p e =>
    "skipping unreadable entry in example corpus: IO error for operation on " ++
      s!"{Bytes.display p}: {e.message}"
  | nameListed _ => "skip: basename is listed"
  | patternFound _ _ => "skip: path matches pattern"
  | rulesLoaded _ _ _ => "loaded exclusion rules"
  | running _ => "running example"
  | started _ _ => "interpreter started"
  | drained _ _ => "discarding captured output"
  | overran _ _ => "example exceeded its time budget, killing interpreter"
  | stopped _ => "interrupted, killing interpreter"
  | finished _ _ _ _ => "run finished"

/-- The fields, with a process number shown as the given function says. -/
def fields (pid : Nat → String) : Event → List (String × String)
  | opened r x => [("root", Bytes.display r), ("extension", x)]
  | unreadable _ _ => []
  | nameListed p | running p | stopped p => [("path", Bytes.display p)]
  | patternFound p t => [("path", Bytes.display p), ("pattern", t)]
  | rulesLoaded p f t =>
    [("path", Bytes.display p), ("files", toString f), ("patterns", toString t)]
  | started n p => [("pid", pid n), ("path", Bytes.display p)]
  | drained o e => [("stdout_bytes", toString o), ("stderr_bytes", toString e)]
  | overran p ms => [("path", Bytes.display p), ("timeout_ms", toString ms)]
  | finished p f s t =>
    [("passed", toString p), ("failed", toString f), ("skipped", toString s),
      ("total", toString t)]

/-- The names of what an event holds. The message is one of them. -/
def fieldNames (e : Event) : List String := "message" :: (e.fields fun _ => "").map (·.1)

def hex (n : Nat) : String := String.ofList (Nat.toDigits 16 n)

/-- A character of a message. What could steer a screen is written as its number. -/
def shownChar (c : Char) : String :=
  if c = '\x1b' ∨ c = '\x7f' then "\\x" ++ hex c.toNat
  else if c = '\x07' ∨ c = '\x08' ∨ c = '\x0c' then "\\x0" ++ hex c.toNat
  else if 0x80 ≤ c.toNat ∧ c.toNat ≤ 0x9F then "\\u\x7b" ++ hex c.toNat ++ "\x7d"
  else c.toString

def shownMessage (e : Event) : String := String.join (e.message.toList.map shownChar)

def text (pid : Nat → String) (e : Event) : String :=
  e.shownMessage ++ String.join ((e.fields pid).map fun f => s!" {f.1}={f.2}")

/-- The event as it stands in the log, level first. -/
def line (pid : Nat → String) (e : Event) : String := e.level.name ++ " " ++ e.text pid

end Event

/-- What is told about a verdict. -/
def ofVerdict (x : Exclusions) (c : Candidate) : Option Event :=
  match x.evaluate c with
  | .skip .byName => some (.nameListed c.path)
  | .skip .byPattern => (x.matching c).map (.patternFound c.path)
  | .proceed => none

/-- The events of at most a level. -/
def upTo (l : Level) (es : List Event) : List Event := es.filter (·.level.rank ≤ l.rank)

end ExampleSuite.Log
