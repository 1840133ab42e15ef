import ExampleSuite.Proofs.Completion

/-!
Runs whose output fills up.

What a run asks of the system does not depend on its output, as long as all is taken. So a run with
room for some bytes goes in step with the run that has room for all, up to the part of the log that
does not fit, where it stops. What it has written is as much of the whole log as fits.
-/

namespace ExampleSuite

variable {σ : Type} {sane waited : σ → Prop}

/-! ### Sessions in step -/

/-- The sessions have the given outputs and differ in nothing else. -/
structure Session.Apart (a b : Sink) (s t : Session σ) : Prop where
  world : s.world = t.world
  told : s.told = t.told
  tally : s.tally = t.tally
  left : s.out = a
  right : t.out = b

/-- Nothing that is done with a child looks at the output or writes to it. -/
lemma Host.respects_apart (h : Host σ) (a b : Sink) : h.Respects (Session.Apart a b) h :=
  h.respects_of_world Session.Apart.world
    (fun _ _ _ hst => ⟨rfl, hst.told, hst.tally, hst.left, hst.right⟩)
    fun e _ _ hst => ⟨hst.world, congrArg (· ++ [e]) hst.told, hst.tally, hst.left, hst.right⟩

/-- The second session has room for `n` bytes where the first has room for all, and has taken the
same so far. -/
structure InStep (n : Nat) (s t : Session (Logged σ)) : Prop where
  world : s.world = t.world
  told : s.told = t.told
  tally : s.tally = t.tally
  unlimited : s.out.limit = none
  out : t.out = ⟨s.out.written, some n⟩
  fits : s.out.written.length ≤ n

namespace InStep

variable {n : Nat} {s t : Session (Logged σ)}

lemma apart (h : InStep n s t) : Session.Apart s.out t.out s t :=
  ⟨h.world, h.told, h.tally, rfl, rfl⟩

lemma calls (h : InStep n s t) : t.calls = s.calls := by
  rw [Session.calls, Session.log, ← h.world]
  rfl

lemma takes (h : InStep n s t) {bs : Bytes} :
    t.out.Takes bs ↔ (s.out.written ++ bs).length ≤ n := by
  rw [h.out, Sink.Takes, Sink.fits, decide_eq_true_eq]

lemma takes_nil (h : InStep n s t) : s.out.Takes [] ∧ t.out.Takes [] :=
  ⟨Sink.takes_of_unlimited h.unlimited [], h.takes.mpr (by simpa using h.fits)⟩

lemma written (h : InStep n s t) (bs : Bytes) : (s.out.put bs).written = s.out.written ++ bs :=
  Sink.written_put (Sink.takes_of_unlimited h.unlimited bs)

/-- Whether it fits or not, the second session takes the first `n` bytes of all. -/
lemma put (h : InStep n s t) (bs : Bytes) :
    t.out.put bs = ⟨(s.out.written ++ bs).take n, some n⟩ := by
  rw [h.out]
  rfl

/-- What is done without a look at the output keeps sessions in step. -/
lemma of_apart (h : InStep n s t) {u v : Session (Logged σ)}
    (apart : Session.Apart s.out t.out u v) : InStep n u v where
  world := apart.world
  told := apart.told
  tally := apart.tally
  unlimited := by rw [apart.left]; exact h.unlimited
  out := by rw [apart.right, apart.left]; exact h.out
  fits := by rw [apart.left]; exact h.fits

/-- What fits is taken by both. -/
lemma put_takes (h : InStep n s t) {bs : Bytes} (hf : (s.out.written ++ bs).length ≤ n) :
    t.out.put bs = ⟨(s.out.put bs).written, some n⟩ := by
  rw [h.put, h.written, List.take_of_length_le hf]

/-- Sessions that print what fits, and go on alike, stay in step. -/
lemma printed (h : InStep n s t) {bs : Bytes} (hf : (s.out.written ++ bs).length ≤ n)
    (f : Logged σ → Logged σ) (g : Summary → Summary) :
    InStep n { s with world := f s.world, out := s.out.put bs, tally := g s.tally }
      { t with world := f t.world, out := t.out.put bs, tally := g t.tally } where
  world := congrArg f h.world
  told := h.told
  tally := congrArg g h.tally
  unlimited := h.unlimited
  out := h.put_takes hf
  fits := by rwa [h.written]

end InStep

/-! ### The turn that does not fit -/

/-- After the turns `us` the line of `x` does not fit, and the run with room for `n` bytes ends
with it in `t`. -/
structure Choked (st : Report.Style) (n : Nat) (s t : Session (Logged σ)) (us : List Turn)
    (x : Turn) : Prop where
  before : (s.out.written ++ us.flatMap (Turn.line st)).length ≤ n
  beyond : n < (s.out.written ++ (us ++ [x]).flatMap (Turn.line st)).length
  written : t.out.written = (s.out.written ++ (us ++ [x]).flatMap (Turn.line st)).take n
  calls : t.calls = s.calls ++ us.flatMap Turn.calls ++ x.asked

lemma Choked.cons {cfg : Config} {st : Report.Style} {n : Nat} {s t u : Session (Logged σ)}
    {ts us : List Turn} {x : Turn} (hw : Went cfg st s t ts) (h : Choked st n t u us x) :
    Choked st n s u (ts ++ us) x where
  before := by simpa [hw.written] using h.before
  beyond := by simpa [hw.written] using h.beyond
  written := by simpa [hw.written] using h.written
  calls := by simpa [hw.calls] using h.calls

/-- The turns `ts`, which lead from `s` to `s'` where there is room for all, lead to `t'` in step,
or one of them stops the run there. -/
inductive Paced (st : Report.Style) (n : Nat) (s s' t' : Session (Logged σ)) (ts : List Turn) :
    Except Failure Unit → Prop where
  | through (inStep : InStep n s' t') : Paced st n s s' t' ts (.ok ())
  | choked {us vs : List Turn} {x : Turn} (cut : ts = us ++ x :: vs)
      (choked : Choked st n s t' us x) : Paced st n s s' t' ts (.error (.output .sinkFull))

lemma Paced.cons {cfg : Config} {st : Report.Style} {n : Nat} {s u s' t' : Session (Logged σ)}
    {ts us : List Turn} {r : Except Failure Unit} (hw : Went cfg st s u ts)
    (h : Paced st n u s' t' us r) : Paced st n s s' t' (ts ++ us) r := by
  cases h with
  | through inStep => exact .through inStep
  | choked cut choked => exact .choked (by rw [cut, List.append_assoc]) (choked.cons hw)

namespace Harness

open Act

variable {h : Host σ} (H : h.Reaps sane waited) (st : Report.Style) (cfg : Config)
include H

/-- If a turn comes to its end where there is room for all, it does so in step where its line
fits, and stops the run where it does not. -/
lemma turn_inStep (c : Candidate) {n : Nat} {s t : Session (Logged σ)} (hst : InStep n s t)
    (hs : sane s.world.1) (ok : answer (turn h.logged st cfg c) s = .ok ()) :
    ∃ x : Turn, x.candidate = c ∧ Went cfg st s (after (turn h.logged st cfg c) s) [x] ∧
      Paced st n s (after (turn h.logged st cfg c) s) (after (turn h.logged st cfg c) t) [x]
        (answer (turn h.logged st cfg c) t) := by
  obtain ⟨ms, hm, hp⟩ := process_logged H cfg c s hs
  obtain ⟨hanswer, hapart⟩ :=
    process_alike cfg (h.logged.respects_apart s.out t.out) c s t hst.apart
  obtain ⟨o, ho, -⟩ := of_answer_bind_ok ok
  rw [ho] at hp hanswer
  set x : Turn := ⟨c, o, ms.map (·.call)⟩
  set u := after (process h.logged cfg c) s with hu
  set v := after (process h.logged cfg c) t with hv
  have huv : InStep n u v := hst.of_apart hapart
  have takes : u.out.Takes (x.line st) := Sink.takes_of_unlimited huv.unlimited _
  obtain ⟨-, hsu⟩ := turn_of_takes st ho hu.symm huv.takes_nil.1 takes
  have unchecked := unchecked_of_turn st ho hu.symm huv.takes_nil.1 takes ok
  refine ⟨x, rfl, went_turn st ho hu.symm hm hp hst.takes_nil.1
    (Sink.takes_of_unlimited hst.unlimited _) unchecked, ?_⟩
  by_cases hf : (u.out.written ++ x.line st).length ≤ n
  · obtain ⟨htv, htu⟩ := turn_of_takes st hanswer.symm hv.symm huv.takes_nil.2
      (huv.takes.mpr hf)
    rw [← huv.world, unchecked] at htv
    rw [htv, hsu, htu]
    exact .through (huv.printed hf (fun a => (h.logged.check a).1) (·.record c o))
  · obtain ⟨htv, htu⟩ := turn_of_not_takes st hanswer.symm hv.symm huv.takes_nil.2
      (huv.takes.not.mpr hf)
    rw [hapart.left, Nat.not_le] at hf
    rw [htv, htu]
    have hcut : [x] = [] ++ x :: [] := rfl
    exact .choked hcut {
      before := by simpa using hst.fits
      beyond := by simpa using hf
      written := by
        rw [huv.put, hapart.left, List.nil_append, List.flatMap_singleton]
        rfl
      calls := by
        show v.calls = _
        rw [huv.calls, hm.calls, List.flatMap_nil, List.append_nil] }

lemma handle_inStep (f : Find) {n : Nat} {s t : Session (Logged σ)} (hst : InStep n s t)
    (hs : sane s.world.1) (ok : answer ((walk h.logged st cfg).handle f) s = .ok ()) :
    ∃ ts : List Turn, ts.map (·.candidate) = examplesOf [f] ∧
      Went cfg st s (after ((walk h.logged st cfg).handle f) s) ts ∧
      Paced st n s (after ((walk h.logged st cfg).handle f) s)
        (after ((walk h.logged st cfg).handle f) t) ts
        (answer ((walk h.logged st cfg).handle f) t) := by
  cases f with
  | found c =>
    obtain ⟨x, hx, hw, hp⟩ := turn_inStep H st cfg c hst hs ok
    exact ⟨[x], by simp [hx], hw, hp⟩
  | unread p e =>
    refine ⟨[], rfl, .of_moved (.tell s (.unreadable p e)) hst.takes_nil.1, .through ?_⟩
    exact ⟨hst.world, congrArg (· ++ [_]) hst.told, hst.tally, hst.unlimited, hst.out, hst.fits⟩

/-- A walk through some finds that comes to its end where there is room for all goes in step up to
the line that does not fit. -/
theorem finds_inStep (fs : List Find) {n : Nat} {s t : Session (Logged σ)} (hst : InStep n s t)
    (hs : sane s.world.1) (ok : answer (forM fs (walk h.logged st cfg).handle) s = .ok ()) :
    ∃ ts : List Turn, ts.map (·.candidate) = examplesOf fs ∧
      Went cfg st s (after (forM fs (walk h.logged st cfg).handle) s) ts ∧
      Paced st n s (after (forM fs (walk h.logged st cfg).handle) s)
        (after (forM fs (walk h.logged st cfg).handle) t) ts
        (answer (forM fs (walk h.logged st cfg).handle) t) := by
  induction fs generalizing s t with
  | nil => exact ⟨[], rfl, .of_moved (.refl s) hst.takes_nil.1, .through hst⟩
  | cons f fs ih =>
    rw [List.forM_cons] at ok ⊢
    obtain ⟨u, hf, hrest, hafter⟩ := of_answer_bind_ok ok
    obtain ⟨ts, hts, hw, hp⟩ := handle_inStep H st cfg f hst hs hf
    have hs' := handle_closed H.toClosed.logged st cfg f s hs
    rw [show examplesOf (f :: fs) = examplesOf [f] ++ examplesOf fs from
      examplesOf_append [f] fs, hafter]
    generalize ha : answer ((walk h.logged st cfg).handle f) t = r at hp
    cases hp with
    | through inStep =>
      rw [answer_bind_ok ha, after_bind_ok ha]
      obtain ⟨us, hus, hv, hq⟩ := ih inStep hs' hrest
      exact ⟨ts ++ us, by rw [List.map_append, hts, hus], hw.trans hv, hq.cons hw⟩
    | @choked us₁ vs₁ x cut choked =>
      rw [answer_bind_error ha, after_bind_error ha]
      obtain ⟨us, ⟨-, hv, hus, -⟩ | ⟨_, _, e, he, -⟩⟩ := finds_logged H st cfg fs _ hs' hw.out_takes
      · have hcut : ts ++ us = us₁ ++ x :: (vs₁ ++ us) := by
          rw [cut, List.append_assoc, List.cons_append]
        exact ⟨ts ++ us, by rw [List.map_append, hts, hus], hw.trans hv, .choked hcut choked⟩
      · rw [hrest] at he
        cases he

/-! ### Whole runs -/

/-- If nothing disturbs it, a walk with room for all output comes to its end. -/
lemma walk_undisturbed {s : Session (Logged σ)} (hs : sane s.world.1)
    (current : Host.Current s.world) (unlimited : s.out.limit = none)
    (calm : ∀ k ∈ (after ((walk h.logged st cfg).run cfg.root) s).calls, k.Calm)
    (tracked : Tracked (after ((walk h.logged st cfg).run cfg.root) s).calls) :
    answer ((walk h.logged st cfg).run cfg.root) s = .ok () := by
  obtain ⟨ts, ⟨ok, -⟩ | ⟨u, c, e, -, hw, hh, -⟩⟩ :=
    walk_logged H st cfg s hs current (Sink.takes_of_unlimited unlimited [])
  · exact ok
  · obtain ⟨ks, hstop, hcalls⟩ := hh.stopped
    have sub : ks ⊆ (after ((walk h.logged st cfg).run cfg.root) s).calls :=
      hcalls ▸ List.subset_append_right _ ks
    rcases hstop.disturbed (hw.limit.trans unlimited) with ⟨k, hk, hnot⟩ | hlost
    · exact absurd (calm k (sub hk)) hnot
    · exact absurd (tracked.of_subset sub) hlost

/-- A walk over a tree that stays as it is below the root, if it comes to its end where there is
room for all. -/
lemma walk_inStep {T : Tree} {n : Nat} {s t : Session (Logged σ)} (hst : InStep n s t)
    (hs : sane s.world.1) (current : Host.Current s.world)
    (still : h.Still cfg.root T (after ((walk h.logged st cfg).run cfg.root) s).log)
    (still' : h.Still cfg.root T (after ((walk h.logged st cfg).run cfg.root) t).log)
    (ok : answer ((walk h.logged st cfg).run cfg.root) s = .ok ()) :
    ∃ ts : List Turn, ts.map (·.candidate) = cfg.examples T h.cwd ∧
      Went cfg st s (after ((walk h.logged st cfg).run cfg.root) s) ts ∧
      Paced st n s (after ((walk h.logged st cfg).run cfg.root) s)
        (after ((walk h.logged st cfg).run cfg.root) t) ts
        (answer ((walk h.logged st cfg).run cfg.root) t) := by
  have hrun := walk_still st cfg current still
  have hrun' := walk_still st cfg (hst.world ▸ current) still'
  rw [answer_congr hrun] at ok
  rw [after_congr hrun, after_congr hrun', answer_congr hrun', Config.examples,
    Corpus.examples_eq]
  exact finds_inStep H st cfg _ hst hs ok

end Harness

/-! ### The part of the log that does not fit -/

/-- The part of the log that goes beyond `n` bytes, with the turns up to it. -/
inductive Crosses (st : Report.Style) (n : Nat) (ts : List Turn) (sum : Summary) :
    List Turn → Prop where
  | banner (beyond : n < (Report.render st Report.banner).length) : Crosses st n ts sum []
  | line {us vs : List Turn} {x : Turn} (cut : ts = us ++ x :: vs)
      (before : (Report.render st Report.banner ++ us.flatMap (Turn.line st)).length ≤ n)
      (beyond : n < (Report.render st Report.banner ++ (us ++ [x]).flatMap (Turn.line st)).length) :
      Crosses st n ts sum (us ++ [x])
  | summary (before : (Report.render st Report.banner ++ ts.flatMap (Turn.line st)).length ≤ n)
      (beyond : n < (wholeLog st ts sum).length) : Crosses st n ts sum ts

/-- How a run with room for `n` bytes ends in `t`, if all that there is to print are some turns and
their summary. -/
inductive Filled (cfg : Config) (st : Report.Style) (n : Nat) (ts : List Turn) (sum : Summary)
    (t : Session (Logged σ)) : Except Failure Summary → Prop where
  | all (fits : (wholeLog st ts sum).length ≤ n) (written : t.out.written = wholeLog st ts sum) :
      Filled cfg st n ts sum t (.ok sum)
  | full {us : List Turn} (beyond : n < (wholeLog st ts sum).length)
      (written : t.out.written = (wholeLog st ts sum).take n) (crosses : Crosses st n ts sum us)
      (executed : started t.calls = (us.filter (·.proceeds cfg)).map (·.candidate.path)) :
      Filled cfg st n ts sum t (.error (.output .sinkFull))

namespace Filled

variable {cfg : Config} {st : Report.Style} {n : Nat} {ts : List Turn} {sum : Summary}
  {t : Session (Logged σ)}

/-- What has been written is the beginning of the whole log, so that no more than it fits. -/
lemma full_of_prefix {us : List Turn} {bs : Bytes} (part : bs <+: wholeLog st ts sum)
    (beyond : n < bs.length) (written : t.out.written = bs.take n)
    (crosses : Crosses st n ts sum us)
    (executed : started t.calls = (us.filter (·.proceeds cfg)).map (·.candidate.path)) :
    Filled cfg st n ts sum t (.error (.output .sinkFull)) := by
  refine .full (Nat.lt_of_lt_of_le beyond part.length_le) ?_ crosses executed
  obtain ⟨cs, hcs⟩ := part
  rw [written, ← hcs, List.take_append_of_le_length (Nat.le_of_lt beyond)]

/-- The banner does not fit. -/
lemma of_banner (beyond : n < (Report.render st Report.banner).length)
    (written : t.out.written = (Report.render st Report.banner).take n)
    (calls : t.calls = [.listened]) : Filled cfg st n ts sum t (.error (.output .sinkFull)) := by
  refine full_of_prefix ?_ beyond written (.banner beyond) (by rw [calls]; rfl)
  rw [wholeLog, List.append_assoc]
  exact List.prefix_append _ _

/-- The line of a turn does not fit. -/
lemma of_choked {s : Session (Logged σ)} {us vs : List Turn} {x : Turn}
    (processed : ∀ x ∈ ts, Processed cfg x.candidate x.asked (.ok x.outcome))
    (cut : ts = us ++ x :: vs) (banner : s.out.written = Report.render st Report.banner)
    (calls : s.calls = [.listened]) (h : Choked st n s t us x) :
    Filled cfg st n ts sum t (.error (.output .sinkFull)) := by
  obtain ⟨hbefore, hbeyond, hwritten, hcalls⟩ := h
  rw [banner] at hbefore hbeyond hwritten
  refine full_of_prefix ?_ hbeyond hwritten (.line cut hbefore hbeyond) ?_
  · rw [wholeLog, cut]
    simp
  · rw [cut] at processed
    rw [hcalls, calls, started_append, started_append,
      started_calls fun y hy => processed y (List.mem_append_left _ hy),
      started_asked (processed x (by simp)), List.filter_append, List.map_append]
    rfl

/-- The turns fit, and then the summary does or does not. -/
lemma of_through {v v' : Session (Logged σ)}
    (processed : ∀ x ∈ ts, Processed cfg x.candidate x.asked (.ok x.outcome))
    (written : v.out.written = Report.render st Report.banner ++ ts.flatMap (Turn.line st))
    (calls : v.calls = .listened :: ts.flatMap Turn.calls) (inStep : InStep n v v')
    (htcalls : t.calls = v'.calls)
    (htout : t.out = v'.out.put (Report.render st (Report.summary v.tally))) :
    Filled cfg st n ts v.tally t
      (if v'.out.Takes (Report.render st (Report.summary v.tally)) then .ok v.tally
        else .error (.output .sinkFull)) := by
  have hall : v.out.written ++ Report.render st (Report.summary v.tally) =
      wholeLog st ts v.tally := by rw [written, wholeLog]
  have hwritten : t.out.written = (wholeLog st ts v.tally).take n := by
    rw [htout, inStep.put, hall]
  by_cases hf : (wholeLog st ts v.tally).length ≤ n
  · rw [if_pos (inStep.takes.mpr (hall ▸ hf))]
    exact .all hf (hwritten.trans (List.take_of_length_le hf))
  · rw [if_neg (inStep.takes.not.mpr (hall ▸ hf))]
    rw [Nat.not_le] at hf
    refine .full hf hwritten (.summary (written ▸ inStep.fits) hf) ?_
    rw [htcalls, inStep.calls, calls, ← started_calls processed]
    rfl

end Filled

namespace Harness

open Act

/-- The session after the banner, if it fits. -/
def opening (h : Host σ) (st : Report.Style) (cfg : Config) (w : σ) (limit : Option Nat) :
    Session (Logged σ) :=
  bannered h.logged st
    (after (tell (.opened cfg.root cfg.extension)) (Session.start w limit).logged) .empty

section

variable {h : Host σ} {T : Tree} {st : Report.Style} {cfg : Config} {corpus : Corpus} {w : σ}
  (tree : (h.disk w).tree = T) (verified : cfg.interpreter.verify T h.cwd = .ok ())
  (opened : Corpus.at? T h.cwd cfg.root cfg.extension = .ok corpus)
include tree verified opened

omit tree verified opened in
lemma opening_current (h : Host σ) (st : Report.Style) (cfg : Config) (w : σ)
    (limit : Option Nat) : Host.Current (opening h st cfg w limit).world :=
  ⟨_, List.mem_cons_self, rfl⟩

omit tree verified opened in
lemma opening_inStep (h : Host σ) (st : Report.Style) (cfg : Config) (w : σ) {n : Nat}
    (fits : (Report.render st Report.banner).length ≤ n) :
    InStep n (opening h st cfg w none) (opening h st cfg w (some n)) where
  world := rfl
  told := rfl
  tally := rfl
  unlimited := rfl
  out := congrArg (Sink.mk · (some n)) (List.take_of_length_le fits)
  fits := fits

lemma run_of_banner {limit : Option Nat}
    (takes : (Sink.empty limit).Takes (Report.render st Report.banner)) :
    answer (run h.logged st cfg) (Session.start w limit).logged =
        answer (summed h.logged st cfg) (opening h st cfg w limit) ∧
      after (run h.logged st cfg) (Session.start w limit).logged =
        after (summed h.logged st cfg) (opening h st cfg w limit) := by
  subst tree
  obtain ⟨ha, ht⟩ := run_of_opened h.logged st (s := (Session.start w limit).logged)
    verified opened
  rw [ha, ht]
  exact announced_of_takes st cfg (Sink.takes_empty limit) takes

/-- What the system goes through in a run whose banner fits is what it goes through in its walk. -/
lemma walk_passed {limit : Option Nat}
    (takes : (Sink.empty limit).Takes (Report.render st Report.banner)) :
    (after ((walk h.logged st cfg).run cfg.root) (opening h st cfg w limit)).log =
      (Session.start w limit).passed (run h.logged st cfg) := by
  obtain ⟨-, ht⟩ := run_of_banner tree verified opened takes
  exact (congrArg Prod.snd (summed_world st cfg)).symm.trans (congrArg Session.log ht).symm

lemma run_of_no_banner {limit : Option Nat}
    (full : ¬ (Sink.empty limit).Takes (Report.render st Report.banner)) :
    answer (run h.logged st cfg) (Session.start w limit).logged = .error (.output .sinkFull) ∧
      after (run h.logged st cfg) (Session.start w limit).logged = opening h st cfg w limit := by
  subst tree
  obtain ⟨ha, ht⟩ := run_of_opened h.logged st (s := (Session.start w limit).logged)
    verified opened
  rw [ha, ht]
  exact announced_of_not_takes st cfg (Sink.takes_empty limit) full

/-- A run whose walk comes to its end prints its summary, as far as it fits. -/
lemma run_of_walk {limit : Option Nat} {v : Session (Logged σ)}
    (takes : (Sink.empty limit).Takes (Report.render st Report.banner))
    (walk_ok : answer ((walk h.logged st cfg).run cfg.root) (opening h st cfg w limit) = .ok ())
    (walk_after : after ((walk h.logged st cfg).run cfg.root) (opening h st cfg w limit) = v)
    (hv : v.out.Takes []) :
    answer (run h.logged st cfg) (Session.start w limit).logged =
        (if v.out.Takes (Report.render st (Report.summary v.tally)) then .ok v.tally
          else .error (.output .sinkFull) : Except Failure Summary) ∧
      (after (run h.logged st cfg) (Session.start w limit).logged).calls = v.calls ∧
      (after (run h.logged st cfg) (Session.start w limit).logged).out =
        v.out.put (Report.render st (Report.summary v.tally)) := by
  obtain ⟨ha, ht⟩ := run_of_banner tree verified opened takes
  obtain ⟨hsa, hst⟩ := summed_of_walk st cfg walk_ok walk_after hv
  rw [ha, ht, hst]
  exact ⟨hsa, rfl, rfl⟩

end

/-- A run with room for all output. -/
lemma run_whole {h : Host σ} {T : Tree} {st : Report.Style} {cfg : Config} {corpus : Corpus} {w : σ}
    (tree : (h.disk w).tree = T) (verified : cfg.interpreter.verify T h.cwd = .ok ())
    (opened : Corpus.at? T h.cwd cfg.root cfg.extension = .ok corpus) {ts : List Turn}
    {v : Session (Logged σ)}
    (ok : answer ((walk h.logged st cfg).run cfg.root) (opening h st cfg w none) = .ok ())
    (walk_after : after ((walk h.logged st cfg).run cfg.root) (opening h st cfg w none) = v)
    (went : Went cfg st (opening h st cfg w none) v ts) :
    answer (run h.logged st cfg) (Session.start w none).logged = .ok v.tally ∧
      (after (run h.logged st cfg) (Session.start w none).logged).calls =
        .listened :: ts.flatMap Turn.calls ∧
      (after (run h.logged st cfg) (Session.start w none).logged).out.written =
        wholeLog st ts v.tally := by
  have unlimited : v.out.limit = none := went.limit
  obtain ⟨ha, hcalls, hout⟩ := run_of_walk tree verified opened
    (Sink.takes_of_unlimited rfl _) ok walk_after went.out_takes
  rw [if_pos (Sink.takes_of_unlimited unlimited _)] at ha
  refine ⟨ha, hcalls.trans went.calls, ?_⟩
  rw [hout, Sink.written_put (Sink.takes_of_unlimited unlimited _), went.written]
  rfl

/-- If nothing disturbs it, a run with room for all output goes through the examples of its corpus,
and one with room for `n` bytes does so as far as these last. -/
lemma run_filled {h : Host σ} (H : h.Reaps sane waited) (st : Report.Style) (cfg : Config)
    (corpus : Corpus) (w : σ) (hw : sane w) (U : Undisturbed h st cfg (.start w none)) {n : Nat}
    (still : h.Still cfg.root (h.disk w).tree
      ((Session.start w (some n)).passed (run h.logged st cfg)))
    (verified : cfg.interpreter.verify (h.disk w).tree h.cwd = .ok ())
    (opened : Corpus.at? (h.disk w).tree h.cwd cfg.root cfg.extension = .ok corpus) :
    ∃ (ts : List Turn) (sum : Summary),
      answer (run h.logged st cfg) (Session.start w none).logged = .ok sum ∧
      ts.map (·.candidate) = corpus.examples (h.disk w).tree h.cwd ∧
      (after (run h.logged st cfg) (Session.start w none).logged).calls =
        .listened :: ts.flatMap Turn.calls ∧
      (after (run h.logged st cfg) (Session.start w none).logged).out.written =
        wholeLog st ts sum ∧
      Filled cfg st n ts sum (after (run h.logged st cfg) (Session.start w (some n)).logged)
        (answer (run h.logged st cfg) (Session.start w (some n)).logged) := by
  set b := opening h st cfg w none with hb
  have sane_b : sane b.world.1 := H.listen hw
  have current := opening_current h st cfg w none
  have passed : (after ((walk h.logged st cfg).run cfg.root) b).log =
      (Session.start w none).passed (run h.logged st cfg) :=
    walk_passed rfl verified opened (Sink.takes_of_unlimited rfl _)
  have asked : (after ((walk h.logged st cfg).run cfg.root) b).calls =
      (Session.start w none).asked (run h.logged st cfg) := congrArg (List.map Moment.call) passed
  have whole : h.Still cfg.root (h.disk w).tree
      (after ((walk h.logged st cfg).run cfg.root) b).log := passed ▸ U.still
  have ok : answer ((walk h.logged st cfg).run cfg.root) b = .ok () :=
    walk_undisturbed H st cfg sane_b current rfl (asked ▸ U.calm) (asked ▸ U.tracked)
  by_cases hbanner : (Report.render st Report.banner).length ≤ n
  · have takes : (Sink.empty (some n)).Takes (Report.render st Report.banner) := by
      simpa [Sink.Takes, Sink.fits, Sink.empty] using hbanner
    have part : h.Still cfg.root (h.disk w).tree
        (after ((walk h.logged st cfg).run cfg.root) (opening h st cfg w (some n))).log :=
      walk_passed rfl verified opened takes ▸ still
    obtain ⟨ts, hts, went, paced⟩ := walk_inStep H st cfg (opening_inStep h st cfg w hbanner)
      sane_b current whole part ok
    obtain ⟨ha, hcalls, hwritten⟩ := run_whole rfl verified opened ok rfl went
    refine ⟨ts, _, ha, by rw [hts, Corpus.eq_of_at? opened, Config.examples], hcalls, hwritten, ?_⟩
    generalize hr : answer ((walk h.logged st cfg).run cfg.root) (opening h st cfg w (some n)) = r
      at paced
    cases paced with
    | through inStep =>
      obtain ⟨hta, htcalls, htout⟩ :=
        run_of_walk rfl verified opened takes hr rfl inStep.takes_nil.2
      rw [← inStep.tally] at hta htout
      rw [hta]
      exact .of_through went.processed went.written went.calls inStep htcalls htout
    | choked cut choked =>
      obtain ⟨hta, htt⟩ := run_of_banner rfl verified opened takes
      unfold summed at hta htt
      rw [hta, htt, answer_bind_error hr, after_bind_error hr]
      exact .of_choked went.processed cut rfl rfl choked
  · have full : ¬ (Sink.empty (some n)).Takes (Report.render st Report.banner) := by
      simpa [Sink.Takes, Sink.fits, Sink.empty] using hbanner
    obtain ⟨hta, htt⟩ := run_of_no_banner rfl verified opened full
    obtain ⟨ts, ⟨-, went, hts, -⟩ | ⟨u, c, e, he, -⟩⟩ := walk_logged H st cfg b sane_b current
      (Sink.takes_of_unlimited rfl _)
    · obtain ⟨ha, hcalls, hwritten⟩ := run_whole rfl verified opened ok rfl went
      refine ⟨ts, _, ha, by rw [hts _ whole, Corpus.eq_of_at? opened, Config.examples], hcalls,
        hwritten, ?_⟩
      rw [hta, htt]
      exact .of_banner (Nat.not_le.mp hbanner) rfl rfl
    · rw [ok] at he
      cases he

/-- If nothing disturbs the run with room for all output, and below the root the tree stays as it
is, a run with room for `n` bytes writes the first `n` bytes of the same log. It ends with the same
summary if these are all, and otherwise because its output is full. Then it has executed the
examples up to the one whose line goes beyond, those set apart that the rules leave out. -/
theorem run_fills {h : Host σ} (H : h.Reaps sane waited) (st : Report.Style) (cfg : Config)
    (corpus : Corpus) (w : σ) (hw : sane w) (U : Undisturbed h st cfg (.start w none)) (n : Nat)
    (still : h.Still cfg.root (h.disk w).tree
      ((Session.start w (some n)).passed (run h.logged st cfg)))
    (verified : cfg.interpreter.verify (h.disk w).tree h.cwd = .ok ())
    (opened : Corpus.at? (h.disk w).tree h.cwd cfg.root cfg.extension = .ok corpus) :
    let s := Session.start w none
    let t := Session.start w (some n)
    let log := (after (run h st cfg) s).out.written
    ∃ (ts : List Turn) (sum : Summary),
      answer (run h st cfg) s = .ok sum ∧
      ts.map (·.candidate) = corpus.examples (h.disk w).tree h.cwd ∧
      s.asked (run h.logged st cfg) = .listened :: ts.flatMap Turn.calls ∧
      log = wholeLog st ts sum ∧
      (after (run h st cfg) t).out.written = log.take n ∧
      (answer (run h st cfg) t = .ok sum ↔ log.length ≤ n) ∧
      (n < log.length → answer (run h st cfg) t = .error (.output .sinkFull) ∧
        ∃ us, Crosses st n ts sum us ∧ started (t.asked (run h.logged st cfg)) =
          (us.filter (·.proceeds cfg)).map (·.candidate.path)) := by
  intro s t log
  obtain ⟨hsa, hst⟩ := run_alike (Host.logged_agree h) st cfg s.logged s s.logged_agree
  obtain ⟨hta, htt⟩ := run_alike (Host.logged_agree h) st cfg t.logged t t.logged_agree
  obtain ⟨ts, sum, ha, hts, hcalls, hwritten, filled⟩ :=
    run_filled H st cfg corpus w hw U still verified opened
  have hlog : log = wholeLog st ts sum := (congrArg Sink.written hst.out.symm).trans hwritten
  clear_value log
  rw [← hsa, ← hta, ← htt.out]
  refine ⟨ts, sum, ha, hts, hcalls, hlog, ?_⟩
  rw [hlog, Session.asked]
  generalize answer (run h.logged st cfg) t.logged = r at filled
  cases filled with
  | all fits written =>
    exact ⟨written.trans (List.take_of_length_le fits).symm, iff_of_true rfl fits,
      fun hlt => absurd fits (Nat.not_le.mpr hlt)⟩
  | full beyond written crosses executed =>
    exact ⟨written, iff_of_false (by simp) (Nat.not_le.mpr beyond),
      fun _ => ⟨rfl, _, crosses, executed⟩⟩

/-- The output fills up in the line of the third of six examples, which has been executed by
then. -/
theorem mixed_fills :
    answer (run (Script.host []) .plain Script.config₆) (.start Script.mixed (some 120)) =
        .error (.output .sinkFull) ∧
      (after (run (Script.host []) .plain Script.config₆)
          (.start Script.mixed (some 120))).out.written =
        (after (run (Script.host []) .plain Script.config₆)
          (.start Script.mixed none)).out.written.take 120 ∧
      ∃ ts sum us, Crosses .plain 120 ts sum us ∧
        (us.filter (·.proceeds Script.config₆)).map (·.candidate.path) =
          ["examples/a.franz", "examples/b.franz", "examples/c.franz"].map Bytes.ofString := by
  obtain ⟨ts, sum, -, -, -, -, hwritten, -, hfull⟩ := run_fills (Script.host_reaps []) .plain
    Script.config₆ _ Script.mixed trivial (Script.mixed_undisturbed .plain none) 120
    (Script.mixed_undisturbed .plain (some 120)).still rfl Script.mixed_opened
  have hlong : 120 < (after (run (Script.host []) .plain Script.config₆)
      (.start Script.mixed none)).out.written.length := by decide +kernel
  obtain ⟨hanswer, us, crosses, hstarted⟩ := hfull hlong
  refine ⟨hanswer, hwritten, ts, sum, us, crosses, hstarted.symm.trans ?_⟩
  decide +kernel

end Harness

end ExampleSuite
