import ExampleSuite.Proofs.Entries
import ExampleSuite.Proofs.Finishing
import ExampleSuite.Proofs.Script

/-!
Counting the lines of a run log.

Every entry begins a line, and the mark that the line begins with tells what the entry is counted
as. So counting lines by their marks gives the counters of the summary, unless the path that an
entry shows has a newline in it and goes on with a mark.
-/

namespace ExampleSuite

namespace Bytes

/-- The first line of a text begins as the text does. -/
lemma isPrefixOf_first {sep : UInt8} {t e l : Bytes} {ls : List Bytes} (ht : sep ∉ t)
    (he : splitOn sep e = l :: ls) : t.isPrefixOf l = t.isPrefixOf e := by
  induction e generalizing t l ls with
  | nil =>
    cases he
    rfl
  | cons b e ih =>
    cases t with
    | nil => rfl
    | cons a t =>
      obtain ⟨ha, ht⟩ := not_or.mp (List.mem_cons.not.mp ht)
      rw [splitOn] at he
      split_ifs at he with hb
      · cases he
        have hab : (a == b) = false := beq_false_of_ne fun h => ha (h.trans hb).symm
        rw [List.isPrefixOf_cons_nil, List.isPrefixOf, hab, Bool.false_and]
      · cases hs : splitOn sep e with
        | nil => exact absurd hs (splitOn_ne_nil sep e)
        | cons p ps =>
          rw [hs] at he
          cases he
          rw [List.isPrefixOf, List.isPrefixOf, ih ht hs]

/-- What comes after the beginning of a text does not matter to a longer or a different one. -/
lemma isPrefixOf_append {t p : Bytes} (h : p.isPrefixOf t → t.isPrefixOf p) (r : Bytes) :
    t.isPrefixOf (p ++ r) = t.isPrefixOf p := by
  rw [Bool.eq_iff_iff]
  simp only [List.isPrefixOf_iff_prefix] at h ⊢
  refine ⟨fun ht => ?_, fun ht => ht.trans (List.prefix_append p r)⟩
  exact (List.prefix_or_prefix_of_prefix ht (List.prefix_append p r)).elim id h

end Bytes

open Bytes (newline unlines)

/-! ### Marks -/

/-- What lines of the log are told apart by. -/
inductive Mark where
  | passed
  | failed
  | skipped
  | listed
  deriving DecidableEq

namespace Mark

def texts : Mark → List String
  | passed => ["✓ PASS: "]
  | failed => ["✗ FAIL: ", "✗ TIMEOUT: "]
  | skipped => ["⊘ SKIP: "]
  | listed => ["  - "]

/-- The counter that the lines with a mark agree with. -/
def counter (y : Summary) : Mark → Nat
  | passed => y.passed
  | failed => y.failed
  | skipped => y.skipped
  | listed => y.failed

/-- The entry for an outcome has the mark. -/
def tells (o : Outcome) : Mark → Bool
  | passed => o.isPassed
  | failed => o.isFailure
  | skipped => o.isSkipped
  | listed => false

def opens (m : Mark) (l : Bytes) : Bool := m.texts.any fun t => (Bytes.ofString t).isPrefixOf l

/-- How many lines of a text begin with a mark. -/
def lines (m : Mark) (bs : Bytes) : Nat := (Bytes.splitOn newline bs).countP m.opens

/-- How many lines of an entry, besides its first, begin with a mark. -/
def forged (m : Mark) (e : Bytes) : Nat := (Bytes.splitOn newline e).tail.countP m.opens

variable (m : Mark)

lemma newline_notMem : ∀ t ∈ m.texts, newline ∉ Bytes.ofString t := by
  cases m <;> decide

lemma opens_first {e l : Bytes} {ls : List Bytes} (he : Bytes.splitOn newline e = l :: ls) :
    m.opens l = m.opens e := by
  rw [Bool.eq_iff_iff, opens, opens, List.any_eq_true, List.any_eq_true]
  refine exists_congr fun t => and_congr_right fun ht => ?_
  rw [Bytes.isPrefixOf_first (m.newline_notMem t ht) he]

lemma lines_entry (e : Bytes) : m.lines e = [e].countP m.opens + m.forged e := by
  rw [lines, forged]
  cases he : Bytes.splitOn newline e with
  | nil => exact absurd he (Bytes.splitOn_ne_nil _ _)
  | cons l ls =>
    rw [List.countP_cons, List.countP_singleton, m.opens_first he, List.tail_cons, Nat.add_comm]

/-- The lines with a mark are the entries with it and those that are forged. -/
lemma lines_unlines (es : List Bytes) :
    m.lines (unlines es) = es.countP m.opens + (es.map m.forged).sum := by
  rw [lines, Bytes.splitOn_unlines, List.countP_append]
  have hrest : [[]].countP m.opens = 0 := by cases m <;> decide
  rw [hrest, Nat.add_zero]
  induction es with
  | nil => rfl
  | cons e es ih =>
    have he := m.lines_entry e
    rw [lines, List.countP_singleton] at he
    rw [List.flatMap_cons, List.countP_append, he, ih, List.countP_cons, List.map_cons,
      List.sum_cons]
    omega

lemma forged_of_notMem {e : Bytes} (h : newline ∉ e) : m.forged e = 0 := by
  rw [forged, Bytes.splitOn_of_notMem h]
  rfl

/-! ### Entries by their marks -/

/-- Whether a text has the mark is settled by its beginning. -/
def Settled (p : Bytes) : Prop :=
  ∀ t ∈ m.texts, p.isPrefixOf (Bytes.ofString t) → (Bytes.ofString t).isPrefixOf p

instance (p : Bytes) : Decidable (m.Settled p) :=
  inferInstanceAs (Decidable (∀ t ∈ m.texts, _ → _))

lemma opens_append {p : Bytes} (h : m.Settled p) (r : Bytes) : m.opens (p ++ r) = m.opens p := by
  rw [Bool.eq_iff_iff, opens, opens, List.any_eq_true, List.any_eq_true]
  refine exists_congr fun t => and_congr_right fun ht => ?_
  rw [Bytes.isPrefixOf_append (h t ht) r]

lemma opens_entry (r : Candidate × Outcome) : m.opens (Report.entry r) = m.tells r.2 := by
  obtain ⟨c, o⟩ := r
  have hlabel : m.Settled (Bytes.ofString (Report.label o)) := by
    cases m <;> cases o <;> simp only [Report.label, Report.marker] <;> decide
  -- No label is the beginning of another mark, so the path has no say in it.
  rw [Report.entry, List.append_assoc, m.opens_append hlabel]
  cases m <;> cases o <;>
    simp only [Report.label, Report.marker, tells, Outcome.isPassed, Outcome.isFailure,
      Outcome.isSkipped] <;> decide

lemma opens_bullet (p : Path) : m.opens (Report.bullet p) = decide (m = listed) := by
  rw [Report.bullet, m.opens_append]
  · cases m <;> decide
  · cases m <;> decide

lemma opens_counts (y : Summary) : (Report.counts y).countP m.opens = 0 := by
  have count {name : String} (h : m.Settled (Bytes.ofString (name ++ ": ")))
      (no : m.opens (Bytes.ofString (name ++ ": ")) = false) (n : Nat) :
      m.opens (Report.count name n) = false := by
    rw [← no, ← m.opens_append h (Bytes.ofString (toString n)), ← Bytes.ofString_append]
    rfl
  rw [Report.counts, List.countP_eq_zero]
  simp only [List.mem_cons, List.not_mem_nil, or_false, forall_eq_or_imp, forall_eq,
    Bool.not_eq_true]
  refine ⟨count ?_ ?_ _, count ?_ ?_ _, count ?_ ?_ _, count ?_ ?_ _⟩ <;> cases m <;> decide

/-- The summary lists the failures, if there are any. -/
lemma countP_closing (y : Summary) : (Report.closing y).countP m.opens =
    if m = listed ∧ y.hasFailures then y.failing.length else 0 := by
  have hfixed : ([[], Bytes.ofString "=== Summary ==="] : List Bytes).countP m.opens = 0 := by
    cases m <;> decide
  have hblank : ([[]] : List Bytes).countP m.opens = 0 := by cases m <;> decide
  have hfindings : (Report.findings y).countP m.opens =
      if m = listed ∧ y.hasFailures then y.failing.length else 0 := by
    rw [Report.findings]
    cases y.hasFailures with
    | false =>
      have hlast : m.opens (Bytes.ofString "✅ All tests passed!") = false := by cases m <;> decide
      simp [hlast]
    | true =>
      have hfirst : m.opens (Bytes.ofString "Failed files:") = false := by cases m <;> decide
      simp only [if_true, and_true, List.countP_cons, hfirst, List.countP_map]
      by_cases hm : m = listed
      · simp [hm, Function.comp_def, opens_bullet]
      · simp [hm, Function.comp_def, opens_bullet]
  rw [Report.closing, List.countP_append, List.countP_append, List.countP_append, hfixed,
    m.opens_counts, hblank, hfindings]
  omega

/-- The entries with a mark are as many as the counter says. -/
theorem countP_entries (rs : List (Candidate × Outcome)) :
    (Report.entries rs).countP m.opens = m.counter (Summary.empty.recordAll rs) := by
  have hopening : Report.opening.countP m.opens = 0 := by cases m <;> decide
  have hentries : (rs.map Report.entry).countP m.opens = rs.countP (m.tells ·.2) := by
    rw [List.countP_map]
    exact List.countP_congr fun r _ => by rw [Function.comp_apply, opens_entry]
  have hlisted : (Report.closing (Summary.empty.recordAll rs)).countP m.opens =
      if m = listed then rs.countP (·.2.isFailure) else 0 := by
    rw [countP_closing, Summary.recordAll_eq]
    simp only [Summary.hasFailures, Summary.failures, Summary.empty, List.nil_append,
      List.length_map, ← List.countP_eq_length_filter, Nat.zero_add, decide_eq_true_eq]
    by_cases hm : m = listed
    · simp only [hm, true_and, if_true]
      split_ifs <;> omega
    · simp only [hm, false_and, if_false]
  rw [Report.entries, List.countP_append, List.countP_append, hopening, hentries, hlisted,
    Summary.recordAll_eq]
  cases m <;> simp [tells, counter, Summary.empty]

end Mark

namespace Harness

open Act

variable {σ : Type} {h : Host σ} {sane waited : σ → Prop}

/-- In the plain log of a run that ends with a summary the lines with a mark are as many as the
counter of the summary says and those that paths with newlines forge. Without such paths they agree
with the counter, and with the exit status. -/
theorem run_counts (H : h.Reaps sane waited) (cfg : Config) {w : σ} (hw : sane w)
    {limit : Option Nat} {sum : Summary}
    (completed : answer (run h .plain cfg) (.start w limit) = .ok sum) :
    let log := (after (run h .plain cfg) (.start w limit)).out.written
    ∃ ts, Finished h sane .plain cfg (.start w limit) ts sum ∧
      (∀ m : Mark, m.lines log =
        m.counter sum + ((Report.entries (ts.map Turn.result)).map m.forged).sum) ∧
      ((∀ x ∈ ts, newline ∉ x.candidate.path) → (∀ m : Mark, m.lines log = m.counter sum) ∧
        (sum.exitStatus = 0 ↔ Mark.failed.lines log = 0)) := by
  intro log
  obtain ⟨ts, f⟩ := run_finished H hw completed
  have hlog : log = unlines (Report.entries (ts.map Turn.result)) := by
    rw [← wholeLog_plain, ← f.counted]
    exact f.written
  have hlines (m : Mark) : m.lines log =
      m.counter sum + ((Report.entries (ts.map Turn.result)).map m.forged).sum := by
    rw [hlog, m.lines_unlines, m.countP_entries, ← f.counted]
  refine ⟨ts, f, hlines, fun hts => ?_⟩
  have hcounts (m : Mark) : m.lines log = m.counter sum := by
    have hnone : ∀ e ∈ Report.entries (ts.map Turn.result), newline ∉ e :=
      Report.newline_notMem_entries (by simpa [Turn.result] using hts)
    rw [hlines, List.sum_eq_zero, Nat.add_zero]
    intro n hn
    obtain ⟨e, he, rfl⟩ := List.mem_map.mp hn
    exact m.forged_of_notMem (hnone e he)
  refine ⟨hcounts, ?_⟩
  rw [hcounts, Summary.exitStatus, Summary.hasFailures, Mark.counter]
  simp

/-- Of six examples one passes and three fail, and the log has as many lines that say so. -/
theorem mixed_counts :
    let log := (after (run (Script.host []) .plain Script.config₆)
      (.start Script.mixed none)).out.written
    ∃ sum,
      answer (run (Script.host []) .plain Script.config₆) (.start Script.mixed none) = .ok sum ∧
      Mark.passed.lines log = 1 ∧ Mark.failed.lines log = 3 ∧ Mark.skipped.lines log = 2 ∧
      Mark.listed.lines log = 3 ∧ sum.exitStatus = 1 := by
  have completed : answer (run (Script.host []) .plain Script.config₆)
      (.start Script.mixed none) = .ok ⟨1, 3, 2, ["examples/b.franz", "examples/c.franz",
        "examples/d.franz"].map Bytes.ofString⟩ := by
    rw [answer_eq_ok]
    decide +kernel
  obtain ⟨ts, f, -, hplain⟩ := run_counts (Script.host_reaps []) Script.config₆ trivial completed
  have hexamples : ∀ c ∈ Script.config₆.examples Script.disk₆.tree [], newline ∉ c.path := by
    decide +kernel
  have hfound : ts.map (·.candidate) = Script.config₆.examples Script.disk₆.tree [] :=
    f.found _ (Script.mixed_undisturbed .plain none).still
  have hts (x : Turn) (hx : x ∈ ts) : newline ∉ x.candidate.path :=
    hexamples x.candidate (hfound ▸ List.mem_map_of_mem hx)
  obtain ⟨hlines, -⟩ := hplain hts
  exact ⟨_, completed, hlines .passed, hlines .failed, hlines .skipped, hlines .listed, rfl⟩

/-- The name of an example can forge a line. One example passes here, and the log has two lines that
say so. -/
theorem forged_miscounts :
    let name := Bytes.ofString "a\n✓ PASS: b.franz"
    let tree := (Tree.empty.put [Bytes.ofString "examples"] .dir).put
      [Bytes.ofString "examples", name] (.file 0)
    let s := Session.start (.ready ⟨tree, #[]⟩ fun _ =>
      .ok ⟨[.exited (.code 0), .outClosed 0, .errClosed 0], false⟩) none
    let log := (after (run (Script.host []) .plain Script.config₁) s).out.written
    let sum : Summary := ⟨1, 0, 0, []⟩
    answer (run (Script.host []) .plain Script.config₁) s = .ok sum ∧
      Mark.passed.counter sum = 1 ∧ Mark.passed.lines log = 2 := by
  intro name tree s log sum
  refine ⟨?_, rfl, ?_⟩
  · rw [answer_eq_ok]
    decide +kernel
  · decide +kernel

end Harness

end ExampleSuite
