import ExampleSuite.Proofs.Runs

/-!
Runs that have ended with a summary.

Such a run has dealt with all examples that it found, has written its whole log, and has counted
what it tells of there.
-/

namespace ExampleSuite

variable {σ : Type} {sane waited : σ → Prop}

/-- The whole log of a run. -/
def wholeLog (st : Report.Style) (ts : List Turn) (sum : Summary) : Bytes :=
  Report.render st Report.banner ++ ts.flatMap (Turn.line st) ++
    Report.render st (Report.summary sum)

/-- The run has dealt with the examples of some turns, in order, and ended with a summary. -/
structure Finished (h : Host σ) (sane : σ → Prop) (st : Report.Style) (cfg : Config)
    (s : Session σ) (ts : List Turn) (sum : Summary) : Prop where
  processed : ∀ x ∈ ts, Processed cfg x.candidate x.asked (.ok x.outcome)
  earned : ∀ x ∈ ts, x.Earned h sane cfg
  found : ∀ T, h.Still cfg.root T (s.passed (Harness.run h.logged st cfg)) →
    ts.map (·.candidate) = cfg.examples T h.cwd
  asked : s.asked (Harness.run h.logged st cfg) = .listened :: ts.flatMap Turn.calls
  written : (after (Harness.run h st cfg) s).out.written = wholeLog st ts sum
  judged : considered (after (Harness.run h st cfg) s).told = ts.map (·.candidate.path)
  counted : sum = Summary.empty.recordAll (ts.map Turn.result)

namespace Finished

variable {h : Host σ} {st : Report.Style} {cfg : Config} {s : Session σ} {ts : List Turn}
  {sum : Summary}

lemma total (f : Finished h sane st cfg s ts sum) : sum.total = ts.length := by
  rw [f.counted, Summary.total_recordAll, List.length_map]
  exact Nat.zero_add _

end Finished

/-- What a run that ends with a summary has done. -/
theorem Harness.run_finished {h : Host σ} (H : h.Reaps sane waited) {st : Report.Style}
    {cfg : Config} {w : σ} (hw : sane w) {limit : Option Nat} {sum : Summary}
    (completed : answer (run h st cfg) (.start w limit) = .ok sum) :
    ∃ ts, Finished h sane st cfg (.start w limit) ts sum := by
  obtain ⟨t, hr, hpassed, hout, htold⟩ := run_ran H st cfg (.start w limit) hw (Sink.takes_empty _)
  rw [completed] at hr
  cases hr with
  | @finished u v ts began went found takes printed earned =>
    have hmade : t.calls = .listened :: ts.flatMap Turn.calls :=
      printed.calls.trans (began.calls_turns went)
    have hlog : t.out.written = wholeLog st ts v.tally := by
      rw [printed.out, Sink.written_put takes, began.out_turns went,
        Sink.written_put (began.takes_turns went)]
      rfl
    have hjudged : considered t.told = ts.map (·.candidate.path) :=
      printed.judged.trans (began.judged_turns went)
    have hcalls : t.calls = (Session.start w limit).asked (run h.logged st cfg) :=
      congrArg (List.map Moment.call) hpassed
    exact ⟨ts, went.processed, earned, hpassed ▸ found, hcalls ▸ hmade, hout ▸ hlog,
      htold ▸ hjudged, began.tally_turns went⟩

end ExampleSuite
