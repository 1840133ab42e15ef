import ExampleSuite.Failure
import ExampleSuite.Log
import ExampleSuite.Outcome
import ExampleSuite.Sink

/-!
The state that a run works on.

A run has a world around it, an output, the events told so far and the tally so far. A step of
a run changes that state and may end the run with a failure. A failure leaves the state as it
is at that moment.
-/

namespace ExampleSuite

structure Session (σ : Type) where
  world : σ
  out : Sink
  told : List Log.Event
  tally : Summary

/-- A step of a run. -/
abbrev Act (σ α : Type) := EStateM Failure (Session σ) α

namespace Session

variable {σ : Type}

def start (world : σ) (limit : Option Nat) : Session σ := ⟨world, .empty limit, [], .empty⟩

end Session

namespace Act

variable {σ α : Type}

def tell (e : Log.Event) : Act σ Unit := modify fun s => { s with told := s.told ++ [e] }

/-- Looks at the world. -/
def look (f : σ → α) : Act σ α := do return f (← get).world

/-- Has the world do something. -/
def act (f : σ → σ × α) : Act σ α :=
  modifyGet fun s => let r := f s.world; (r.2, { s with world := r.1 })

def ofExcept : Except Failure α → Act σ α
  | .ok a => pure a
  | .error e => throw e

end Act

end ExampleSuite
