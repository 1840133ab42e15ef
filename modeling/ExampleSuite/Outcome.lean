import ExampleSuite.Exclusion

/-!
What became of an example, and the tally of a run.

A nonzero exit and an overrun both count as failures. The tally keeps one counter for each
kind and the paths of the failures in the order in which they were recorded.
-/

namespace ExampleSuite

inductive Outcome where
  | passed
  /-- The exit code, or the negated number of the signal that killed the interpreter. -/
  | failed (code : Int)
  | timedOut
  | skipped (r : SkipReason)
  deriving DecidableEq, Repr

def Outcome.isFailure : Outcome → Bool
  | .failed _ | .timedOut => true
  | .passed | .skipped _ => false

structure Summary where
  passed : Nat
  failed : Nat
  skipped : Nat
  failing : List Path
  deriving DecidableEq, Repr

namespace Summary

def empty : Summary := ⟨0, 0, 0, []⟩

def record (s : Summary) (c : Candidate) : Outcome → Summary
  | .passed => { s with passed := s.passed + 1 }
  | .failed _ | .timedOut => { s with failed := s.failed + 1, failing := s.failing ++ [c.path] }
  | .skipped _ => { s with skipped := s.skipped + 1 }

def total (s : Summary) : Nat := s.passed + s.failed + s.skipped

def hasFailures (s : Summary) : Bool := 0 < s.failed

/-- `0` if nothing failed and `1` otherwise. -/
def exitStatus (s : Summary) : Nat := if s.hasFailures then 1 else 0

@[simp] theorem total_empty : empty.total = 0 := rfl

@[simp] theorem total_record (s : Summary) (c : Candidate) (o : Outcome) :
    (s.record c o).total = s.total + 1 := by
  cases o <;> simp [record, total] <;> omega

end Summary

end ExampleSuite
