/-!
Signals: their numbers, their names and what they do to a process that has no wish of its own.
-/

namespace ExampleSuite.Machine.Signal

def interrupt : Nat := 2
def kill : Nat := 9
def brokenPipe : Nat := 13
def continue_ : Nat := 18

/-- The names of the signals from `1` on. -/
def names : List String :=
  ["HUP", "INT", "QUIT", "ILL", "TRAP", "ABRT", "BUS", "FPE", "KILL", "USR1", "SEGV", "USR2",
    "PIPE", "ALRM", "TERM", "STKFLT", "CHLD", "CONT", "STOP", "TSTP", "TTIN", "TTOU", "URG",
    "XCPU", "XFSZ", "VTALRM", "PROF", "WINCH", "IO", "PWR", "SYS"]

def count : Nat := 64

/-- The names of all signals, as far as they have one, and their numbers otherwise. -/
def listing : List String :=
  let some_ := (names.map fun n => if n == "STKFLT" then "16" else n)
  let up := (List.range 15).map fun (i : Nat) => s!"RTMIN+{i + 1}"
  let down := (List.range 14).reverse.map fun (i : Nat) => s!"RTMAX-{i + 1}"
  "0" :: some_ ++ ["32", "33", "RTMIN"] ++ up ++ down ++ ["RTMAX"]

/-- The number that a text names in figures or letters. -/
def ofText (s : String) : Option Nat :=
  match s.toNat? with
  | some n => if n ≤ count then some n else none
  | none => if s == "EXIT" then some 0 else listing.findIdx? (· == s.toUpper)

inductive Effect where
  | ends
  | stops
  | continues
  | none
  deriving DecidableEq, Repr

def effect (n : Nat) : Effect :=
  if n = continue_ then .continues
  else if [0, 17, 23, 28].contains n then .none
  else if [19, 20, 21, 22].contains n then .stops
  else .ends

/-- No process can refuse these. -/
def isSure (n : Nat) : Bool := n = kill || n = 19

end ExampleSuite.Machine.Signal
