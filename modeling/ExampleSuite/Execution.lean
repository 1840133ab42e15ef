import ExampleSuite.Config
import ExampleSuite.Disk
import ExampleSuite.Session

/-!
Running one example within its time.

A child is watched until it has exited and both its outputs are closed, unless its time runs
out or an interrupt comes first. In those two cases the child is killed and waited for before
the verdict is given. A child that cannot be waited for is lost, which ends the run.
-/

namespace ExampleSuite

/-- How a process ended. -/
inductive Status where
  | code (n : Nat)
  | signal (n : Nat)
  deriving DecidableEq, Repr

/-- The outcome of an example whose interpreter ended by itself. -/
def Status.outcome : Status → Outcome
  | code 0 => .passed
  | code n => .failed n
  | signal n => .failed (-n)

/-- What waiting for a child comes to: how it ended, or why that cannot be told. -/
inductive End where
  | exited (s : Status)
  | lost (cause : Cause)
  deriving DecidableEq, Repr

/-- What has been seen of a child: what waiting for it came to, and how many bytes each of its
outputs had when it was closed. -/
structure Watch where
  status : Option End
  out : Option Nat
  err : Option Nat
  deriving DecidableEq, Repr

namespace Watch

def start : Watch := ⟨none, none, none⟩

/-- How many things are yet to be seen. -/
def open_ (w : Watch) : Nat :=
  (if w.status.isNone then 1 else 0) + (if w.out.isNone then 1 else 0) +
    (if w.err.isNone then 1 else 0)

/-- All that there is to see, once it has been seen. -/
def complete? : Watch → Option (End × Nat × Nat)
  | ⟨some x, some o, some e⟩ => some (x, o, e)
  | _ => none

end Watch

/-- What can be seen next of a child. -/
inductive Event (w : Watch) where
  | exited (s : Status) (new : w.status = none)
  /-- The child could not be waited for. -/
  | lost (cause : Cause) (new : w.status = none)
  | outClosed (n : Nat) (new : w.out = none)
  | errClosed (n : Nat) (new : w.err = none)
  /-- The time of the child has run out. -/
  | elapsed
  | interrupted

/-- What a run needs of the system around it. -/
structure Host (σ : Type) where
  disk : σ → Disk
  cwd : Place
  /-- From here on an interrupt is kept until it is asked for. -/
  listen : σ → σ
  /-- Starts a program on one argument, with its time in milliseconds. -/
  start : Path → Path → Nat → σ → σ × Except Cause Nat
  /-- Waits for what happens next to the child. -/
  next : (w : Watch) → σ → σ × Event w
  /-- Kills the child and waits for its end. -/
  kill : σ → σ × Except Cause Unit
  /-- How the child ended, if it is known that it did. -/
  poll : σ → σ × Except Cause (Option Status)
  /-- Takes an interrupt that has been kept. -/
  check : σ → σ × Bool

namespace Execution

variable {σ : Type}

/-- Why the watch over a child ended. -/
inductive Wake where
  | done (x : End) (out err : Nat)
  | elapsed
  | interrupted
  deriving DecidableEq, Repr

open Act (act tell)

/-- Watches a child until there is nothing more to see, its time is up or an interrupt comes. -/
def watch (h : Host σ) (w : Watch) : Act σ Wake :=
  match w.complete? with
  | some (x, o, e) => pure (.done x o e)
  | none => do
    match ← act (h.next w) with
    | .exited s _ => watch h { w with status := some (.exited s) }
    | .lost cause _ => watch h { w with status := some (.lost cause) }
    | .outClosed n _ => watch h { w with out := some n }
    | .errClosed n _ => watch h { w with err := some n }
    | .elapsed => return .elapsed
    | .interrupted => return .interrupted
termination_by w.open_
decreasing_by all_goals simp_all [Watch.open_]

/-- Kills the child. That it has been waited for already is no failure. -/
def terminate (h : Host σ) (c : Candidate) : Act σ Unit := do
  match ← act h.kill with
  | .ok () => return
  | .error cause =>
    match ← act h.poll with
    | .ok (some _) => return
    | _ => throw (.wait c.path cause)

def supervise (h : Host σ) (i : Interpreter) (c : Candidate) : Act σ Outcome := do
  match ← watch h .start with
  | .done x out err =>
    tell (.drained out err)
    match x with
    | .exited s => return s.outcome
    | .lost cause => throw (.wait c.path cause)
  | .elapsed =>
    tell (.overran c.path (i.budget % 0x10000000000000000))
    terminate h c
    return .timedOut
  | .interrupted =>
    tell (.stopped c.path)
    terminate h c
    throw .interrupted

/-- Runs one example to its outcome. -/
def execute (h : Host σ) (i : Interpreter) (c : Candidate) : Act σ Outcome := do
  match ← act (h.start i.program c.path i.budget) with
  | .error cause => throw (.spawn i.program cause)
  | .ok pid =>
    tell (.started pid c.path)
    supervise h i c

end Execution

end ExampleSuite
