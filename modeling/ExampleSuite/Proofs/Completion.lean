import ExampleSuite.Proofs.Finishing
import ExampleSuite.Proofs.Verdict

/-!
Runs that come to their end.

If every child can be started and none is lost, no interrupt comes and all output is taken, a run
deals with every example of its corpus and ends with a summary. The list of its turns then says all
at once: which examples were dealt with, what was asked of the system for each, what was printed,
and what was counted.
-/

namespace ExampleSuite

variable {σ : Type} {h : Host σ} {sane waited : σ → Prop}

/-- A turn stops a run with room for all output only if a child cannot be started or is lost, or if
an interrupt comes. -/
lemma Stopped.disturbed {cfg : Config} {st : Report.Style} {out out' : Sink} {c : Candidate}
    {ks : List Call} {e : Failure} (hlimit : out.limit = none)
    (h : Stopped cfg st out c ks out' e) : (∃ k ∈ ks, ¬ k.Calm) ∨ ¬ Tracked ks := by
  cases h with
  | failed verdict =>
    cases verdict with
    | executed rule run =>
      cases run with
      | refused cause => exact .inl ⟨_, List.mem_singleton_self _, id⟩
      | started pid rest =>
        cases rest with
        | @lost es cause o e all =>
          have hmem : Call.saw (.lost cause) ∈ es.map .saw :=
            List.mem_map_of_mem (all.mem_iff.mpr List.mem_cons_self)
          exact .inr fun tracked => tracked cause (List.mem_cons_of_mem _ hmem)
        | stopped left short gone =>
          cases short
          exact .inl ⟨.saw .interrupted, by simp, id⟩
  | unwritten verdict full => exact absurd (Sink.takes_of_unlimited hlimit _) full
  | interrupted verdict takes => exact .inl ⟨.checked true, by simp, id⟩

/-- What became of an example, and what it took. -/
inductive Turn.Fair (cfg : Config) (x : Turn) : Prop where
  | skipped (r : SkipReason) (rule : cfg.rules.evaluate x.candidate = .skip r)
      (outcome : x.outcome = .skipped r) (asked : x.asked = [])
  | executed (pid : Nat) (ks : List Call) (rule : cfg.rules.evaluate x.candidate = .proceed)
      (asked : x.asked = .started cfg.interpreter.program x.candidate.path cfg.interpreter.budget
        (.ok pid) :: ks)
      (once : ∀ p c n r, .started p c n r ∉ ks)
      (verdict : Seen x.candidate (sights ks) (.ok x.outcome))

/-- A turn that came to its end was fair. -/
lemma Processed.fair {cfg : Config} {x : Turn}
    (h : Processed cfg x.candidate x.asked (.ok x.outcome)) : x.Fair cfg := by
  obtain ⟨c, o, ks⟩ := x
  change Processed cfg c ks (.ok o) at h
  cases h with
  | @skipped r rule => exact .skipped r rule rfl rfl
  | executed rule run =>
    cases run with
    | @started pid ks _ rest =>
      exact .executed pid ks rule rfl (fun _ _ _ _ => rest.not_started) rest.seen

/-! ### The examples that are executed -/

/-- The examples whose interpreter has been started, in order. -/
def started (ks : List Call) : List Path :=
  ks.filterMap fun k => match k with
    | .started _ c _ (.ok _) => some c
    | _ => none

@[simp] lemma started_append (ks ls : List Call) :
    started (ks ++ ls) = started ks ++ started ls := List.filterMap_append

/-- The turn is one of an example that the rules do not leave out. -/
def Turn.proceeds (cfg : Config) (x : Turn) : Bool := cfg.rules.evaluate x.candidate = .proceed

lemma started_asked {cfg : Config} {x : Turn}
    (h : Processed cfg x.candidate x.asked (.ok x.outcome)) :
    started x.asked = ([x].filter (·.proceeds cfg)).map (·.candidate.path) := by
  cases h.fair with
  | skipped r rule outcome asked => simp [asked, Turn.proceeds, rule, started]
  | executed pid ks rule asked once verdict =>
    have hks : started ks = [] := by
      refine List.filterMap_eq_nil_iff.mpr fun k hk => ?_
      cases k with
      | started p c b r => exact absurd hk (once p c b r)
      | _ => rfl
    have hstarted : started x.asked = x.candidate.path :: started ks := by
      rw [asked]
      rfl
    simp [hstarted, hks, Turn.proceeds, rule]

lemma started_calls {cfg : Config} {ts : List Turn}
    (h : ∀ x ∈ ts, Processed cfg x.candidate x.asked (.ok x.outcome)) :
    started (ts.flatMap Turn.calls) = (ts.filter (·.proceeds cfg)).map (·.candidate.path) := by
  induction ts with
  | nil => rfl
  | cons x ts ih =>
    obtain ⟨hx, hts⟩ := List.forall_mem_cons.mp h
    rw [List.flatMap_cons, started_append, ih hts, Turn.calls, started_append, started_asked hx,
      show started [.checked false] = [] from rfl, List.append_nil, ← List.map_append,
      ← List.filter_append]
    rfl

/-- A finished run has executed the examples that the rules do not leave out. -/
lemma Finished.executed {st : Report.Style} {cfg : Config} {s : Session σ} {ts : List Turn}
    {sum : Summary} (f : Finished h sane st cfg s ts sum) :
    started (s.asked (Harness.run h.logged st cfg)) =
      (ts.filter (·.proceeds cfg)).map (·.candidate.path) := by
  rw [f.asked, ← started_calls f.processed]
  rfl

/-! ### The tally -/

lemma recordAll_turns (ts : List Turn) :
    Summary.empty.recordAll (ts.map Turn.result) = {
      passed := ts.countP (·.outcome.isPassed)
      failed := ts.countP (·.outcome.isFailure)
      skipped := ts.countP (·.outcome.isSkipped)
      failing := (ts.filter (·.outcome.isFailure)).map (·.candidate.path) } := by
  rw [Summary.recordAll_eq]
  simp [Summary.empty, Summary.failures, List.countP_map, List.filter_map, Function.comp_def,
    Turn.result]

lemma exitStatus_turns (ts : List Turn) :
    (Summary.empty.recordAll (ts.map Turn.result)).exitStatus = 0 ↔
      ∀ x ∈ ts, x.outcome.isFailure = false := by
  rw [Summary.exitStatus_recordAll]
  simp [Turn.result]

namespace Harness

/-- If nothing disturbs it, a run that passes the checks and has room for all its output ends with a
summary. -/
lemma run_undisturbed (H : h.Reaps sane waited) {st : Report.Style} {cfg : Config}
    {corpus : Corpus} {w : σ} (hw : sane w) (U : Undisturbed h st cfg (.start w none))
    (verified : cfg.interpreter.verify (h.disk w).tree h.cwd = .ok ())
    (opened : Corpus.at? (h.disk w).tree h.cwd cfg.root cfg.extension = .ok corpus) :
    ∃ sum, answer (run h st cfg) (.start w none) = .ok sum := by
  set s := Session.start w none
  obtain ⟨u, hr, hlog, -, -⟩ := run_ran H st cfg s hw (Sink.takes_empty none)
  have hcalls : u.calls = s.asked (run h.logged st cfg) := congrArg (List.map Moment.call) hlog
  have calm := U.calm
  have tracked := U.tracked
  rw [← hcalls] at calm tracked
  generalize answer (run h st cfg) s = r at hr ⊢
  cases hr with
  | refused why calls out judged =>
    rw [show s.logged.world.1 = w from rfl, verified, opened] at why
    rcases why with hv | hc
    · cases hv
    · cases hc
  | mute full calls out judged => exact absurd (Sink.takes_of_unlimited rfl _) full
  | halted began went halted found =>
    obtain ⟨ks, hstop, hks⟩ := halted.stopped
    have sub : ks ⊆ u.calls := hks ▸ List.subset_append_right _ ks
    rcases hstop.disturbed (began.limit went) with ⟨k, hk, hnot⟩ | hlost
    · exact absurd (calm k (sub hk)) hnot
    · exact absurd (tracked.of_subset sub) hlost
  | unsummed began went found full printed =>
    exact absurd (Sink.takes_of_unlimited (began.limit went) _) full
  | finished began went found takes printed => exact ⟨_, rfl⟩

/-- If nothing disturbs it, a run that passes the checks deals with all examples of its corpus in
order. The rules decide which are executed, each of those is started once on its path and has the
outcome that its child earned, and the log and the summary tell of the same outcomes. -/
theorem run_completes (H : h.Reaps sane waited) (st : Report.Style) (cfg : Config)
    (corpus : Corpus) (w : σ) (hw : sane w) (U : Undisturbed h st cfg (.start w none))
    (verified : cfg.interpreter.verify (h.disk w).tree h.cwd = .ok ())
    (opened : Corpus.at? (h.disk w).tree h.cwd cfg.root cfg.extension = .ok corpus) :
    let s := Session.start w none
    let examples := corpus.examples (h.disk w).tree h.cwd
    ∃ (ts : List Turn) (sum : Summary),
      answer (run h st cfg) s = .ok sum ∧
      ts.map (·.candidate) = examples ∧
      (∀ x ∈ ts, x.Fair cfg) ∧
      s.asked (run h.logged st cfg) = .listened :: ts.flatMap Turn.calls ∧
      (after (run h st cfg) s).out.written = Report.render st Report.banner ++
        ts.flatMap (Turn.line st) ++ Report.render st (Report.summary sum) ∧
      sum.passed = ts.countP (·.outcome.isPassed) ∧
      sum.failed = ts.countP (·.outcome.isFailure) ∧
      sum.skipped = ts.countP (·.outcome.isSkipped) ∧
      sum.total = examples.length ∧
      sum.failing = (ts.filter (·.outcome.isFailure)).map (·.candidate.path) ∧
      (sum.exitStatus = 0 ↔ ∀ x ∈ ts, x.outcome.isFailure = false) := by
  intro s examples
  obtain ⟨sum, completed⟩ := run_undisturbed H hw U verified opened
  obtain ⟨ts, f⟩ := run_finished H hw completed
  have hfound : ts.map (·.candidate) = examples := by
    rw [f.found _ U.still, Config.examples, ← Corpus.eq_of_at? opened]
    rfl
  have htotal : sum.total = examples.length := by
    rw [f.total, ← hfound, List.length_map]
  have hcounts := f.counted.trans (recordAll_turns ts)
  have hstatus : sum.exitStatus = 0 ↔ ∀ x ∈ ts, x.outcome.isFailure = false := by
    rw [f.counted, exitStatus_turns]
  exact ⟨ts, sum, completed, hfound, fun x hx => (f.processed x hx).fair, f.asked, f.written,
    congrArg Summary.passed hcounts, congrArg Summary.failed hcounts,
    congrArg Summary.skipped hcounts, htotal, congrArg Summary.failing hcounts, hstatus⟩

/-- Of six examples one passes, one exits with `3`, one is killed by a signal and one runs out of
time, and two are left out. -/
theorem mixed_completes :
    let s := Session.start Script.mixed none
    ∃ (ts : List Turn) (sum : Summary),
      answer (run (Script.host []) .plain Script.config₆) s = .ok sum ∧
      sum = ⟨1, 3, 2, ["examples/b.franz", "examples/c.franz", "examples/d.franz"].map
        Bytes.ofString⟩ ∧
      (∀ x ∈ ts, x.Fair Script.config₆) ∧
      ts.flatMap (Turn.line .plain) = ["✓ PASS: examples/a.franz\n",
        "✗ FAIL: examples/b.franz (exit code: 3)\n", "✗ FAIL: examples/c.franz (exit code: -9)\n",
        "✗ TIMEOUT: examples/d.franz\n", "⊘ SKIP: examples/e.franz (excluded by name)\n",
        "⊘ SKIP: examples/f.franz (excluded by pattern)\n"].flatMap Bytes.ofString := by
  intro s
  obtain ⟨ts, sum, ha, -, hfair, -, hwritten, -⟩ := run_completes (Script.host_reaps []) .plain
    Script.config₆ _ Script.mixed trivial (Script.mixed_undisturbed .plain none) rfl
    Script.mixed_opened
  obtain rfl : sum = ⟨1, 3, 2, ["examples/b.franz", "examples/c.franz", "examples/d.franz"].map
      Bytes.ofString⟩ := by
    refine Except.ok.inj (ha.symm.trans ?_)
    rw [answer_eq_ok]
    decide +kernel
  refine ⟨ts, _, ha, rfl, hfair, ?_⟩
  refine List.append_cancel_left (List.append_cancel_right (hwritten.symm.trans ?_))
  decide +kernel

end Harness

end ExampleSuite
