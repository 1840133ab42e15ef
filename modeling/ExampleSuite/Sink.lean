import ExampleSuite.Text.Utf8

/-!
An output that may fill up.

A sink takes bytes up to its limit. A write that goes beyond stores what fits and fails, and
so does every later write that has something to store.
-/

namespace ExampleSuite

structure Sink where
  written : Bytes
  /-- How many bytes fit, if that is limited. -/
  limit : Option Nat
  deriving DecidableEq, Repr

namespace Sink

def empty (limit : Option Nat) : Sink := ⟨[], limit⟩

/-- What of a byte string fits below a limit. -/
def upTo : Option Nat → Bytes → Bytes
  | none, bs => bs
  | some n, bs => bs.take n

def fits : Option Nat → Bytes → Bool
  | none, _ => true
  | some n, bs => bs.length ≤ n

/-- Stores a byte string and says whether all of it fit. -/
def write (s : Sink) (bs : Bytes) : Sink × Bool :=
  ({ s with written := upTo s.limit (s.written ++ bs) }, fits s.limit (s.written ++ bs))

/-- Writes one piece after the other and stops at the first that does not fit. -/
def writeAll (s : Sink) : List Bytes → Sink × Bool
  | [] => (s, true)
  | b :: bs =>
    match s.write b with
    | (s', true) => writeAll s' bs
    | (s', false) => (s', false)

@[simp] theorem limit_write (s : Sink) (bs : Bytes) : (s.write bs).1.limit = s.limit := rfl

@[simp] theorem written_write (s : Sink) (bs : Bytes) :
    (s.write bs).1.written = upTo s.limit (s.written ++ bs) := rfl

@[simp] theorem ok_write (s : Sink) (bs : Bytes) :
    (s.write bs).2 = fits s.limit (s.written ++ bs) := rfl

end Sink

end ExampleSuite
