import ExampleSuite.Log.Filter
import ExampleSuite.Proofs.Completion
import ExampleSuite.Proofs.Listing

/-!
What a run tells.

A run over a tree that stays as it is and that can be read tells that it has opened its corpus,
then something about each example in turn, and last what it has counted. What is told about an
example depends on its outcome, and leads up to it.
-/

namespace ExampleSuite

/-! ### Trees that can be read -/

namespace Corpus

/-- All directories that a walk enters can be listed. -/
def Readable (c : Corpus) (t : Tree) (cwd : Place) : Prop :=
  ∀ p, t.Enters cwd c.root p → t.Listed cwd p

variable {c : Corpus} {t : Tree} {cwd : Place}

/-- A root with no directories in it can be read if it can be listed. -/
lemma readable_of_flat {es : List (Bytes × Entry)} (listing : t.list cwd c.root = .ok es)
    (flat : ∀ x ∈ es, x.2 ≠ .dir) : c.Readable t cwd := by
  intro p hp
  obtain rfl : p = c.root := by
    induction hp with
    | root => rfl
    | inner dir hes listed ih =>
      rw [ih, listing] at hes
      obtain rfl := Except.ok.inj hes
      exact absurd rfl (flat _ listed)
  exact Tree.listed_iff.mpr ⟨es, listing⟩

lemma unread_notMem_offered {extension : Bytes} {p q : Path} {e : Errno} :
    .unread q e ∉ Find.offered t cwd extension p := by
  unfold Find.offered
  split <;> simp

variable (proper : t.Proper) (readable : c.Readable t cwd)
include proper readable

/-- A path gets longer with each directory, so the depth of a walk does not run out before it gets
too long to be listed. -/
lemma unread_notMem_below {extension : Bytes} {n : Nat} {p : Path} {isDir : Bool}
    (entered : isDir → t.Enters cwd c.root p) (hn : Tree.pathMax < p.length + n) (q : Path)
    (e : Errno) :
    .unread q e ∉ Find.below t cwd extension n p isDir := by
  induction n generalizing p isDir with
  | zero =>
    cases isDir with
    | false => simpa [Find.below] using unread_notMem_offered
    | true =>
      obtain ⟨r, hr, -⟩ := readable p (entered rfl)
      obtain ⟨-, hl, -⟩ := Tree.find_eq_dir_iff.mp hr
      omega
  | succ n ih =>
    cases isDir with
    | false => exact unread_notMem_offered
    | true =>
      obtain ⟨es, hes⟩ := Tree.listed_iff.mp (readable p (entered rfl))
      rw [Find.below, hes, List.mem_append, not_or]
      refine ⟨unread_notMem_offered, fun hmem => ?_⟩
      obtain ⟨y, hy, hmem⟩ := List.mem_flatMap.mp hmem
      obtain ⟨⟨m, d⟩, hx, rfl⟩ := List.mem_map.mp hy
      have hx : (m, d) ∈ es := Walk.mem_sorted.mp hx
      have hpos : 0 < m.length := by
        obtain ⟨r, -, -, rfl⟩ := Tree.list_eq_ok_iff.mp hes
        exact List.length_pos_iff.mpr (proper.isName hx).ne_nil
      have hlong := Path.length_join_le p m
      dsimp only at hmem
      refine ih (fun hd => ?_) (by omega) hmem
      obtain rfl : d = .dir := eq_of_beq hd
      exact .inner (entered rfl) hes hx

/-- All that a walk finds in such a tree are examples. -/
lemma all_eq_examples : Find.all t cwd (Bytes.ofString c.extension) c.root =
    (c.examples t cwd).map .found := by
  have hunread : ∀ q e, .unread q e ∉ Find.all t cwd (Bytes.ofString c.extension) c.root := by
    obtain ⟨r, hr, -⟩ := readable c.root .root
    have hbelow : ∀ q e, .unread q e ∉
        Find.below t cwd (Bytes.ofString c.extension) Walk.maxDepth c.root true :=
      unread_notMem_below proper readable (fun _ => .root) (by unfold Walk.maxDepth; omega)
    rw [Find.all, hr]
    exact hbelow
  rw [examples_eq]
  generalize Find.all t cwd (Bytes.ofString c.extension) c.root = fs at hunread
  induction fs with
  | nil => rfl
  | cons f fs ih =>
    have hfs := ih fun q e hmem => hunread q e (List.mem_cons_of_mem f hmem)
    cases f with
    | found c => rw [examplesOf_found, List.map_cons, ← hfs]
    | unread q e => exact absurd List.mem_cons_self (hunread q e)

end Corpus

/-! ### Levels -/

namespace Log

lemma upTo_trace (es : List Event) : upTo .trace es = es := by
  refine List.filter_eq_self.mpr fun e _ => ?_
  cases e <;> rfl

/-- A directive for all events lets through what is of at most its level. -/
lemma filter_overall (l : Level) (es : List Event) :
    es.filter (Filter.enabled [.overall (some l)]) = upTo l es :=
  List.filter_congr fun _ _ => rfl

end Log

/-! ### What is told about an example -/

/-- How an example came to its outcome, as far as it is told. -/
inductive Course (cfg : Config) (c : Candidate) : Outcome → Type where
  | named (verdict : cfg.rules.evaluate c = .skip .byName) : Course cfg c (.skipped .byName)
  | matched (text : String) (verdict : cfg.rules.evaluate c = .skip .byPattern)
      (first : cfg.rules.matching c = some text) : Course cfg c (.skipped .byPattern)
  | ended {o : Outcome} (pid out err : Nat) (verdict : cfg.rules.evaluate c = .proceed)
      (own : o = .passed ∨ ∃ n, o = .failed n) : Course cfg c o
  | overran (pid : Nat) (verdict : cfg.rules.evaluate c = .proceed) : Course cfg c .timedOut

namespace Course

variable {cfg : Config} {c : Candidate} {o : Outcome}

/-- All that is told. -/
def events : Course cfg c o → List Log.Event
  | named _ => [.nameListed c.path]
  | matched text _ _ => [.patternFound c.path text]
  | ended pid out err _ _ => [.running c.path, .started pid c.path, .drained out err]
  | overran pid _ => [.running c.path, .started pid c.path,
      .overran c.path (cfg.interpreter.budget % 0x10000000000000000)]

/-- What is told if outputs that are thrown away are not worth telling. -/
def digest : Course cfg c o → List Log.Event
  | named _ => [.nameListed c.path]
  | matched text _ _ => [.patternFound c.path text]
  | ended pid _ _ _ _ => [.running c.path, .started pid c.path]
  | overran pid _ => [.running c.path, .started pid c.path,
      .overran c.path (cfg.interpreter.budget % 0x10000000000000000)]

lemma upTo_debug (k : Course cfg c o) : Log.upTo .debug k.events = k.digest := by
  cases k <;> rfl

end Course

/-- An example that has been dealt with, and how. -/
structure Account (cfg : Config) where
  candidate : Candidate
  outcome : Outcome
  course : Course cfg candidate outcome

namespace Account

variable {cfg : Config}

def events (x : Account cfg) : List Log.Event := x.course.events

def digest (x : Account cfg) : List Log.Event := x.course.digest

/-- What is recorded in the tally. -/
def result (x : Account cfg) : Candidate × Outcome := (x.candidate, x.outcome)

/-- The part of the log that a report in a style has for the example. -/
def line (st : Report.Style) (x : Account cfg) : Bytes :=
  Report.render st (Report.outcome x.candidate x.outcome)

lemma upTo_debug (xs : List (Account cfg)) :
    Log.upTo .debug (xs.flatMap events) = xs.flatMap digest := by
  rw [Log.upTo, List.filter_flatMap]
  exact List.flatMap_congr fun x _ => x.course.upTo_debug

end Account

variable {σ : Type} {h : Host σ}

/-- Events have been told, and at most the world has changed besides. -/
structure Session.Tells (s t : Session σ) (es : List Log.Event) : Prop where
  told : t.told = s.told ++ es
  out : t.out = s.out
  tally : t.tally = s.tally

namespace Session.Tells

variable {s t u : Session σ} {es fs : List Log.Event}

lemma refl (s : Session σ) : s.Tells s [] := ⟨(List.append_nil _).symm, rfl, rfl⟩

lemma trans (hst : s.Tells t es) (htu : t.Tells u fs) : s.Tells u (es ++ fs) where
  told := by rw [htu.told, hst.told, List.append_assoc]
  out := htu.out.trans hst.out
  tally := htu.tally.trans hst.tally

lemma tell (s : Session σ) (e : Log.Event) : s.Tells (after (Act.tell e) s) [e] := ⟨rfl, rfl, rfl⟩

lemma act {α : Type} (s : Session σ) (f : σ → σ × α) : s.Tells (after (Act.act f) s) [] :=
  ⟨(List.append_nil _).symm, rfl, rfl⟩

end Session.Tells

namespace Execution

open Act

/-- A child is watched in silence. -/
lemma watch_tells (w : Watch) (s : Session σ) : s.Tells (after (watch h w) s) [] := by
  fun_induction watch h w generalizing s with
  | case1 w st o e hc => exact .refl s
  | case2 w hc ih1 ih2 ih3 ih4 =>
    have hact := Session.Tells.act s (h.next w)
    rw [after_act_bind]
    cases (h.next w s.world).2 with
    | exited st new => exact hact.trans (ih1 st new _)
    | lost cause new => exact hact.trans (ih2 cause new _)
    | outClosed n new => exact hact.trans (ih3 n new _)
    | errClosed n new => exact hact.trans (ih4 n new _)
    | elapsed => exact hact
    | interrupted => exact hact

lemma terminate_tells (c : Candidate) (s : Session σ) :
    s.Tells (after (terminate h c) s) [] := by
  have hkill := Session.Tells.act s h.kill
  unfold terminate
  rw [after_act_bind]
  cases (h.kill s.world).2 with
  | ok u => exact hkill
  | error cause =>
    have hpoll := hkill.trans (.act _ h.poll)
    dsimp only
    rw [after_act_bind]
    split
    · exact hpoll
    · exact hpoll

variable {cfg : Config} {c : Candidate} {s : Session σ} {o : Outcome}

/-- A child that is watched to an outcome has ended by itself, or its time was up. -/
lemma supervise_tells (ok : answer (supervise h cfg.interpreter c) s = .ok o) :
    (∃ out err, (o = .passed ∨ ∃ n, o = .failed n) ∧
      s.Tells (after (supervise h cfg.interpreter c) s) [.drained out err]) ∨
    (o = .timedOut ∧ s.Tells (after (supervise h cfg.interpreter c) s)
      [.overran c.path (cfg.interpreter.budget % 0x10000000000000000)]) := by
  unfold supervise at ok ⊢
  obtain ⟨wake, -, hwake, hafter⟩ := of_answer_bind_ok ok
  rw [hafter]
  set t := after (watch h .start) s
  have hwatch : s.Tells t [] := watch_tells .start s
  cases wake with
  | done x out err =>
    dsimp only at hwake ⊢
    rw [answer_tell_bind] at hwake
    rw [after_tell_bind]
    cases x with
    | exited status =>
      refine .inl ⟨out, err, ?_, hwatch.trans (.tell t _)⟩
      obtain rfl : status.outcome = o := Except.ok.inj hwake
      rcases status with (_ | n) | n
      · exact .inl rfl
      · exact .inr ⟨_, rfl⟩
      · exact .inr ⟨_, rfl⟩
    | lost cause => cases hwake
  | elapsed =>
    dsimp only at hwake ⊢
    rw [answer_tell_bind] at hwake
    rw [after_tell_bind]
    obtain ⟨-, -, ho, hafter⟩ := of_answer_bind_ok hwake
    rw [hafter]
    exact .inr ⟨(Except.ok.inj ho).symm, (hwatch.trans (.tell t _)).trans (terminate_tells c _)⟩
  | interrupted =>
    dsimp only at hwake
    rw [answer_tell_bind] at hwake
    obtain ⟨-, -, hthrow, -⟩ := of_answer_bind_ok hwake
    cases hthrow

lemma execute_tells (ok : answer (execute h cfg.interpreter c) s = .ok o) :
    ∃ pid, (∃ out err, (o = .passed ∨ ∃ n, o = .failed n) ∧
        s.Tells (after (execute h cfg.interpreter c) s)
          [.started pid c.path, .drained out err]) ∨
      (o = .timedOut ∧ s.Tells (after (execute h cfg.interpreter c) s)
        [.started pid c.path,
          .overran c.path (cfg.interpreter.budget % 0x10000000000000000)]) := by
  unfold execute at ok ⊢
  have hstart := Session.Tells.act s (h.start cfg.interpreter.program c.path cfg.interpreter.budget)
  rw [answer_act_bind] at ok
  rw [after_act_bind]
  cases hr : (h.start cfg.interpreter.program c.path cfg.interpreter.budget s.world).2 with
  | error cause =>
    rw [hr] at ok
    cases ok
  | ok pid =>
    rw [hr] at ok
    dsimp only at ok ⊢
    rw [answer_tell_bind] at ok
    rw [after_tell_bind]
    have hstarted := hstart.trans (.tell _ (.started pid c.path))
    obtain ⟨out, err, own, hx⟩ | ⟨rfl, hx⟩ := supervise_tells ok
    · exact ⟨pid, .inl ⟨out, err, own, hstarted.trans hx⟩⟩
    · exact ⟨pid, .inr ⟨rfl, hstarted.trans hx⟩⟩

end Execution

namespace Harness

open Act

variable {cfg : Config} {c : Candidate} {s : Session σ} {o : Outcome}

/-- What is told about an example until its outcome is known. -/
lemma process_tells (ok : answer (process h cfg c) s = .ok o) :
    ∃ k : Course cfg c o, s.Tells (after (process h cfg c) s) k.events := by
  unfold process at ok ⊢
  cases hv : cfg.rules.evaluate c with
  | skip r =>
    obtain ⟨e, he, -⟩ := Log.ofVerdict_skip hv
    rw [hv, he] at ok
    obtain rfl : Outcome.skipped r = o := Except.ok.inj ok
    rw [he]
    rw [Log.ofVerdict, hv] at he
    cases r with
    | byName =>
      obtain rfl := Option.some.inj he
      exact ⟨.named hv, .tell s _⟩
    | byPattern =>
      obtain ⟨text, first, rfl⟩ := Option.map_eq_some_iff.mp he
      exact ⟨.matched text hv first, .tell s _⟩
  | proceed =>
    have hquiet := Log.ofVerdict_proceed hv
    rw [hv, hquiet] at ok
    rw [hquiet]
    set t := after (tell (.running c.path)) s
    have hrunning : s.Tells t [.running c.path] := .tell s _
    change answer (Execution.execute h cfg.interpreter c) t = .ok o at ok
    show ∃ k : Course cfg c o, s.Tells (after (Execution.execute h cfg.interpreter c) t) k.events
    obtain ⟨pid, ⟨out, err, own, hx⟩ | ⟨rfl, hx⟩⟩ := Execution.execute_tells ok
    · exact ⟨.ended pid out err hv own, hrunning.trans hx⟩
    · exact ⟨.overran pid hv, hrunning.trans hx⟩

end Harness

/-! ### What is told about one example after the other -/

/-- Some examples have been dealt with, one after the other, each up to its line. -/
structure Recounted (st : Report.Style) {cfg : Config} (s t : Session σ)
    (xs : List (Account cfg)) : Prop where
  told : t.told = s.told ++ xs.flatMap Account.events
  out : t.out = s.out.put (xs.flatMap (Account.line st))
  takes : s.out.Takes (xs.flatMap (Account.line st))
  tally : t.tally = s.tally.recordAll (xs.map Account.result)

namespace Recounted

variable {st : Report.Style} {cfg : Config} {s t u : Session σ} {xs ys : List (Account cfg)}

lemma nil (hout : s.out.Takes []) : Recounted st s s ([] : List (Account cfg)) where
  told := (List.append_nil _).symm
  out := (Sink.put_nil hout).symm
  takes := hout
  tally := rfl

lemma trans (hst : Recounted st s t xs) (htu : Recounted st t u ys) :
    Recounted st s u (xs ++ ys) where
  told := by rw [htu.told, hst.told, List.flatMap_append, List.append_assoc]
  out := by rw [htu.out, hst.out, List.flatMap_append, Sink.put_put]
  takes := by
    rw [List.flatMap_append]
    exact Sink.takes_append.mpr ⟨hst.takes, hst.out ▸ htu.takes⟩
  tally := by rw [htu.tally, hst.tally, List.map_append, Summary.recordAll_append]

end Recounted

namespace Harness

open Act

variable {st : Report.Style} {cfg : Config}

lemma turn_tells {c : Candidate} {s : Session σ} (hout : s.out.Takes [])
    (ok : answer (turn h st cfg c) s = .ok ()) :
    ∃ x : Account cfg, x.candidate = c ∧ Recounted st s (after (turn h st cfg c) s) [x] := by
  cases hp : answer (process h cfg c) s with
  | error e =>
    unfold turn at ok
    rw [answer_bind_error hp] at ok
    cases ok
  | ok o =>
    obtain ⟨k, hk⟩ := process_tells hp
    have huo : (after (process h cfg c) s).out.Takes [] := hk.out.symm ▸ hout
    by_cases takes : (after (process h cfg c) s).out.Takes (Report.render st (Report.outcome c o))
    · obtain ⟨-, hafter⟩ := turn_of_takes st hp rfl huo takes
      refine ⟨⟨c, o, k⟩, rfl, ?_⟩
      rw [hafter]
      exact {
        told := by rw [List.flatMap_singleton]; exact hk.told
        out := by rw [List.flatMap_singleton, ← hk.out]; rfl
        takes := by rw [List.flatMap_singleton, ← hk.out]; exact takes
        tally := congrArg (·.record c o) hk.tally }
    · rw [(turn_of_not_takes st hp rfl huo takes).1] at ok
      cases ok

theorem turns_tell {cs : List Candidate} {s : Session σ} (hout : s.out.Takes [])
    (ok : answer (forM cs (turn h st cfg)) s = .ok ()) :
    ∃ xs : List (Account cfg), xs.map (·.candidate) = cs ∧
      Recounted st s (after (forM cs (turn h st cfg)) s) xs := by
  induction cs generalizing s with
  | nil => exact ⟨[], rfl, .nil hout⟩
  | cons c cs ih =>
    rw [List.forM_cons] at ok ⊢
    obtain ⟨_, hturn, hrest, hafter⟩ := of_answer_bind_ok ok
    obtain ⟨x, rfl, hx⟩ := turn_tells hout hturn
    obtain ⟨xs, rfl, hxs⟩ := ih (hx.out ▸ Sink.takes_nil_put _ _) hrest
    rw [hafter]
    exact ⟨x :: xs, rfl, hx.trans hxs⟩

variable {t : Tree}

section

variable (proper : t.Proper) (readable : (⟨cfg.root, cfg.extension⟩ : Corpus).Readable t h.cwd)
  {s : Session (Logged σ)} {sum : Summary} (current : Host.Current s.world)
include proper readable current

/-- Over a tree that stays as it is and that can be read a walk is nothing but the turns of its
examples. -/
lemma walk_turns (st : Report.Style)
    (still : h.Still cfg.root t (after ((walk h.logged st cfg).run cfg.root) s).log) :
    ((walk h.logged st cfg).run cfg.root).run s =
      (forM (cfg.examples t h.cwd) (turn h.logged st cfg)).run s := by
  have hfinds : Find.all t h.cwd (Bytes.ofString cfg.extension) cfg.root =
      (cfg.examples t h.cwd).map .found := Corpus.all_eq_examples proper readable
  rw [walk_still st cfg current still, hfinds, List.forM_map]
  rfl

/-- After its banner a run deals with its examples and tells what it has counted. -/
lemma summed_tells (still : h.Still cfg.root t (after (summed h.logged st cfg) s).log)
    (hout : s.out.Takes []) (hy : s.tally = .empty)
    (ok : answer (summed h.logged st cfg) s = .ok sum) :
    ∃ xs : List (Account cfg), xs.map (·.candidate) = cfg.examples t h.cwd ∧
      sum = Summary.empty.recordAll (xs.map Account.result) ∧
      (after (summed h.logged st cfg) s).out.written = s.out.written ++
        xs.flatMap (Account.line st) ++ Report.render st (Report.summary sum) ∧
      (after (summed h.logged st cfg) s).told = s.told ++ xs.flatMap Account.events ++
        [.finished sum.passed sum.failed sum.skipped sum.total] := by
  rw [Session.log, summed_world st cfg] at still
  have hwalk := walk_turns proper readable current st still
  have hturns : answer (forM (cfg.examples t h.cwd) (turn h.logged st cfg)) s = .ok () := by
    unfold summed at ok
    obtain ⟨⟨⟩, hw, -⟩ := of_answer_bind_ok ok
    rw [← hw, answer_congr hwalk]
  obtain ⟨xs, hxs, hrec⟩ := turns_tell hout hturns
  set u := after (forM (cfg.examples t h.cwd) (turn h.logged st cfg)) s with hu
  obtain ⟨ha, ht⟩ := summed_of_walk st cfg ((answer_congr hwalk).trans hturns)
    ((after_congr hwalk).trans hu.symm) (hrec.out ▸ Sink.takes_nil_put _ _)
  have htally : u.tally = Summary.empty.recordAll (xs.map Account.result) := hy ▸ hrec.tally
  by_cases fits : u.out.Takes (Report.render st (Report.summary u.tally))
  · rw [ha, if_pos fits] at ok
    obtain rfl : u.tally = sum := Except.ok.inj ok
    refine ⟨xs, hxs, htally, ?_, ?_⟩
    · rw [ht, Sink.written_put fits, hrec.out, Sink.written_put hrec.takes]
    · rw [ht, hrec.told]
  · rw [ha, if_neg fits] at ok
    cases ok

end

/-- A run that ends with a summary has passed its checks and printed its banner. -/
lemma run_summed {s : Session σ} {sum : Summary} (hout : s.out.Takes [])
    (completed : answer (run h st cfg) s = .ok sum) :
    let u := bannered h st (after (tell (.opened cfg.root cfg.extension)) s) .empty
    s.out.Takes (Report.render st Report.banner) ∧ answer (summed h st cfg) u = .ok sum ∧
      after (run h st cfg) s = after (summed h st cfg) u := by
  intro u
  cases hv : cfg.interpreter.verify (h.disk s.world).tree h.cwd with
  | error e =>
    rw [(run_of_unverified h st hv).1] at completed
    cases completed
  | ok _ =>
    cases hc : Corpus.at? (h.disk s.world).tree h.cwd cfg.root cfg.extension with
    | error e =>
      rw [(run_of_unopened h st hv hc).1] at completed
      cases completed
    | ok c =>
      obtain ⟨ha, ht⟩ := run_of_opened h st hv hc
      rw [ha] at completed
      set v := after (tell (.opened cfg.root cfg.extension)) s
      by_cases fits : s.out.Takes (Report.render st Report.banner)
      · obtain ⟨hb, hu⟩ := announced_of_takes (h := h) (s := v) st cfg hout fits
        exact ⟨fits, hb.symm.trans completed, ht.trans hu⟩
      · rw [(announced_of_not_takes (h := h) (s := v) st cfg hout fits).1] at completed
        cases completed

/-- A run that ends with a summary, over a tree that stays as it is and that can be read, tells that
it has opened its corpus, then for each example in turn what befits its outcome, and last what it
has counted. That outputs are thrown away is told at trace level only, and only of examples that
have passed or failed. What is told at a level is what is told at trace level and is of at most
that level. -/
theorem run_tells (proper : t.Proper)
    (readable : (⟨cfg.root, cfg.extension⟩ : Corpus).Readable t h.cwd) {w : σ}
    {limit : Option Nat} {sum : Summary}
    (still : h.Still cfg.root t ((Session.start w limit).passed (run h.logged st cfg)))
    (completed : answer (run h st cfg) (.start w limit) = .ok sum) :
    let s := after (run h st cfg) (.start w limit)
    let reported (l : Log.Level) := s.told.filter (Log.Filter.enabled [.overall (some l)])
    ∃ xs : List (Account cfg), xs.map (·.candidate) = cfg.examples t h.cwd ∧
      sum = Summary.empty.recordAll (xs.map Account.result) ∧
      s.out.written = Report.render st Report.banner ++ xs.flatMap (Account.line st) ++
        Report.render st (Report.summary sum) ∧
      reported .debug = .opened cfg.root cfg.extension :: xs.flatMap Account.digest ++
        [.finished sum.passed sum.failed sum.skipped sum.total] ∧
      reported .trace = .opened cfg.root cfg.extension :: xs.flatMap Account.events ++
        [.finished sum.passed sum.failed sum.skipped sum.total] ∧
      ∀ l, reported l = Log.upTo l (reported .trace) := by
  intro s reported
  have hreported (l : Log.Level) : reported l = Log.upTo l s.told := Log.filter_overall l s.told
  have hout : (Session.start w limit).logged.out.Takes [] := Sink.takes_empty limit
  -- what is told and printed is the same if the system keeps a log
  obtain ⟨ha, hs⟩ := run_alike (Host.logged_agree h) st cfg (Session.start w limit).logged
    (Session.start w limit) (Session.start w limit).logged_agree
  obtain ⟨fits, ok, hafter⟩ := run_summed hout (ha.trans completed)
  rw [Session.passed, hafter] at still
  obtain ⟨xs, hxs, hsum, hwritten, htold⟩ := summed_tells proper readable
    (Host.current_note (fun _ : Unit => Call.listened) (fun a => (h.listen a, ())) _) still
    (Sink.takes_nil_put _ _) rfl ok
  rw [← hafter, hs.out] at hwritten
  rw [← hafter, hs.told] at htold
  have htrace : reported .trace = .opened cfg.root cfg.extension :: xs.flatMap Account.events ++
      [.finished sum.passed sum.failed sum.skipped sum.total] := by
    rw [hreported, Log.upTo_trace]
    exact htold
  refine ⟨xs, hxs, hsum, ?_, ?_, htrace, fun l => ?_⟩
  · rw [hwritten]
    exact congrArg (· ++ _ ++ _) (Sink.written_put fits)
  · rw [hreported, ← Log.upTo_trace s.told, ← hreported, htrace, Log.upTo, List.filter_append,
      List.filter_cons_of_pos rfl, ← Account.upTo_debug]
    rfl
  · rw [hreported, hreported, Log.upTo_trace]

/-- A child that exits and leaves its outputs open. -/
def lingering : Scene := ⟨[.exited (.code 0), .elapsed], false⟩

/-- The only example overruns, and the run tells so between opening its corpus and the counters. -/
theorem lingering_tells :
    let cfg := Script.config₁
    let s := Session.start (.ready Script.disk₁ fun _ => .ok lingering) none
    let sum : Summary := ⟨0, 1, 0, [Bytes.ofString "examples/a.franz"]⟩
    answer (run (Script.host []) .plain cfg) s = .ok sum ∧
    ∃ xs : List (Account cfg), xs.map (·.candidate.path) = [Bytes.ofString "examples/a.franz"] ∧
      sum = Summary.empty.recordAll (xs.map Account.result) ∧
      (after (run (Script.host []) .plain cfg) s).told.filter
          (Log.Filter.enabled [.overall (some .debug)]) =
        .opened (Bytes.ofString "examples") "franz" :: xs.flatMap Account.digest ++
          [.finished 0 1 0 1] := by
  intro cfg s sum
  have completed : answer (run (Script.host []) .plain cfg) s = .ok sum := by
    rw [answer_eq_ok]
    decide +kernel
  have listing : Script.disk₁.tree.list [] cfg.root =
      .ok [(Bytes.ofString "a.franz", .file 0)] := by
    decide +kernel
  have readable : (⟨cfg.root, cfg.extension⟩ : Corpus).Readable Script.disk₁.tree [] :=
    Corpus.readable_of_flat listing (by decide)
  have hexamples : cfg.examples Script.disk₁.tree [] = [⟨Bytes.ofString "examples/a.franz"⟩] := by
    rw [Config.examples, Corpus.examples_eq]
    decide +kernel
  have undisturbed : Undisturbed (Script.host []) .plain cfg s :=
    Script.quiet_undisturbed [] (fun _ => ⟨by decide, fun _ => by simp [lingering], rfl⟩) .plain
      cfg none
  obtain ⟨xs, hxs, hsum, -, hdebug, -⟩ :=
    run_tells (by decide +kernel) readable undisturbed.still completed
  refine ⟨completed, xs, ?_, hsum, hdebug⟩
  have hpaths := congrArg (List.map Candidate.path) (hxs.trans hexamples)
  rwa [List.map_map] at hpaths

/-- All that is told of a child that does so, in order. -/
example : let a := Bytes.ofString "examples/a.franz"
    let scene : Scene := ⟨[.exited (.code 0), .elapsed], false⟩
    (after (run (Script.host []) .plain Script.config₁)
      (.start (.ready Script.disk₁ fun _ => .ok scene) none)).told =
    [.opened (Bytes.ofString "examples") "franz", .running a, .started 1 a, .overran a 10000,
      .finished 0 1 0 1] := by
  decide +kernel

end Harness

end ExampleSuite
