import ExampleSuite.Proofs.Entries

/-!
The summary at the end of a log.

Its figures are followed by the list of the failures, or by the line that says that there are none.
Which of the two comes is told by a counter, while the list is kept apart from it. A tally keeps
them in step, so the list has as many entries as the counter says, and the exit status tells which
of the two has been printed.
-/

namespace ExampleSuite

namespace Summary

lemma exitStatus_eq_one_iff {y : Summary} : y.exitStatus = 1 ↔ y.hasFailures := by
  unfold exitStatus
  split_ifs with h <;> simp [h]

lemma exitStatus_eq_zero_iff {y : Summary} : y.exitStatus = 0 ↔ ¬ y.hasFailures := by
  unfold exitStatus
  split_ifs with h <;> simp [h]

end Summary

namespace Report

open Bytes (newline unlines)

/-- The list of the failures does not begin as the line does that says that there are none. -/
lemma unlines_failedFiles_ne (ps : List Path) (st : Style) :
    unlines (failedFiles ps) ≠ unlines [allPassed st] := by
  intro h
  have hfirst : (unlines (failedFiles ps)).head? = some 0x46 := by
    rw [failedFiles, Bytes.unlines_cons, List.head?_append]
    rfl
  have hother : (unlines [allPassed st]).head? ≠ some 0x46 := by cases st <;> decide
  exact hother (h ▸ hfirst)

/-- A tally has one path for each failure that it counts, in the order in which they were recorded,
and tallies of parts are put together by adding up. In its summary the list of exactly these
failures follows the figures if the exit status is `1`, and the line that all passed if it is
`0`. -/
theorem summary_agrees (rs qs : List (Candidate × Outcome)) (st : Style) :
    let y := Summary.empty.recordAll rs
    y.failed = y.failing.length ∧
    y.total = rs.length ∧
    y.failing = (rs.filter (·.2.isFailure)).map (·.1.path) ∧
    y.failing.Sublist (rs.map (·.1.path)) ∧
    Summary.empty.recordAll (rs ++ qs) = y.recordAll qs ∧
    y.recordAll qs = y.merge (Summary.empty.recordAll qs) ∧
    (y.exitStatus = 0 ∨ y.exitStatus = 1) ∧
    ∃ verdict : Bytes,
      (print st (.empty none) (summary y)).1.written = unlines (figures y) ++ verdict ∧
      (verdict = unlines (failedFiles y.failing) ↔ y.exitStatus = 1) ∧
      (verdict = unlines [allPassed st] ↔ y.exitStatus = 0) := by
  intro y
  have failing : y.failing = Summary.failures rs := by
    rw [show y = _ from Summary.recordAll_eq .empty rs]
    rfl
  have failed : y.failed = y.failing.length := by
    rw [failing, Summary.length_failures, show y = _ from Summary.recordAll_eq .empty rs]
    exact Nat.zero_add _
  have total : y.total = rs.length := by
    rw [Summary.total_recordAll]
    exact Nat.zero_add _
  refine ⟨failed, total, failing, failing ▸ List.filter_sublist.map _,
    Summary.recordAll_append .empty rs qs, y.recordAll_eq_merge qs, ?_, render st (verdict y), ?_,
    ?_, ?_⟩
  · unfold Summary.exitStatus
    split_ifs <;> simp
  · rw [print_eq st (Sink.takes_empty none), render_figures]
    rfl
  · rw [Summary.exitStatus_eq_one_iff, render_verdict]
    split_ifs with h
    · exact iff_of_true rfl h
    · exact iff_of_false (unlines_failedFiles_ne _ st).symm h
  · rw [Summary.exitStatus_eq_zero_iff, render_verdict]
    split_ifs with h
    · exact iff_of_false (unlines_failedFiles_ne _ st) (not_not_intro h)
    · exact iff_of_true rfl h

end Report

end ExampleSuite
