import ExampleSuite.Proofs.Printing
import ExampleSuite.Proofs.Tally
import ExampleSuite.Proofs.Walking
import ExampleSuite.Proofs.Watching

/-!
A run, example by example.

A turn deals with one example. It comes to its end, and then the example is counted and has its
line in the log, or it stops the run. A walk through the finds of a corpus is a list of turns that
came to their end, with at most one that stopped the run after them.
-/

namespace ExampleSuite

/-! ### The verdict on one example -/

/-- What is asked of the system for an example before it is counted, and what that ends with. -/
inductive Processed (cfg : Config) (c : Candidate) : List Call → Except Failure Outcome → Prop where
  | skipped {r : SkipReason} (verdict : cfg.rules.evaluate c = .skip r) :
      Processed cfg c [] (.ok (.skipped r))
  | executed {ks : List Call} {r : Except Failure Outcome}
      (verdict : cfg.rules.evaluate c = .proceed) (run : Executed cfg.interpreter c ks r) :
      Processed cfg c ks r

/-- No child is started while another is watched. -/
lemma Supervised.not_started {x : Candidate} {ks : List Call} {r : Except Failure Outcome}
    (h : Supervised x ks r) {p c : Path} {n : Nat} {a : Except Cause Nat} :
    .started p c n a ∉ ks := by
  cases h with
  | ended all => simp
  | lost all => simp
  | stopped left short gone => cases gone <;> simp

lemma Supervised.failure {c : Candidate} {ks : List Call} {e : Failure}
    (h : Supervised c ks (.error e)) :
    e = .interrupted ∨ ∃ cause, e = .wait c.path cause ∧ .saw (.lost cause) ∈ ks := by
  cases h with
  | @lost es cause o e all =>
    exact .inr ⟨cause, rfl, List.mem_map_of_mem (all.mem_iff.mpr List.mem_cons_self)⟩
  | stopped left short gone =>
    cases short
    exact .inl rfl

/-- An example fails the run only if its interpreter cannot be started, if an interrupt comes, or if
its child is lost. -/
lemma Processed.failure {cfg : Config} {c : Candidate} {ks : List Call} {e : Failure}
    (h : Processed cfg c ks (.error e)) :
    (∃ cause, e = .spawn cfg.interpreter.program cause) ∨ e = .interrupted ∨
      ∃ cause, e = .wait c.path cause ∧ .saw (.lost cause) ∈ ks := by
  cases h with
  | executed verdict run =>
    cases run with
    | refused cause => exact .inl ⟨cause, rfl⟩
    | started pid rest =>
      exact .inr (rest.failure.imp_right fun ⟨cause, he, hk⟩ =>
        ⟨cause, he, List.mem_cons_of_mem _ hk⟩)

/-- An example that the rules leave out is told about. -/
lemma Log.ofVerdict_skip {x : Exclusions} {c : Candidate} {r : SkipReason}
    (h : x.evaluate c = .skip r) :
    ∃ e, Log.ofVerdict x c = some e ∧ e.considered = some c.path := by
  cases r with
  | byName => exact ⟨.nameListed c.path, by rw [Log.ofVerdict, h], rfl⟩
  | byPattern =>
    have hm : (x.matching c).isSome := by
      by_contra hn
      rw [Exclusions.evaluate, if_neg hn] at h
      split at h <;> cases h
    obtain ⟨p, hp⟩ := Option.isSome_iff_exists.mp hm
    exact ⟨.patternFound c.path p, by rw [Log.ofVerdict, h, hp]; rfl, rfl⟩

lemma Log.ofVerdict_proceed {x : Exclusions} {c : Candidate} (h : x.evaluate c = .proceed) :
    Log.ofVerdict x c = none := by
  rw [Log.ofVerdict, h]

variable {σ : Type} {sane waited : σ → Prop}

namespace Harness

open Act

variable {h : Host σ} (H : h.Reaps sane waited)
include H

lemma process_logged (cfg : Config) (c : Candidate) (s : Session (Logged σ))
    (hs : sane s.world.1) :
    ∃ ms, Moved s (after (process h.logged cfg c) s) ms [c.path] ∧
      Processed cfg c (ms.map (·.call)) (answer (process h.logged cfg c) s) := by
  unfold process
  cases hv : cfg.rules.evaluate c with
  | skip r =>
    obtain ⟨e, he, hc⟩ := Log.ofVerdict_skip hv
    have hm := Moved.tell s e
    rw [hc] at hm
    rw [he]
    exact ⟨_, hm, .skipped hv⟩
  | proceed =>
    rw [Log.ofVerdict_proceed hv]
    obtain ⟨ms, hm, hx⟩ :=
      Execution.execute_logged H cfg.interpreter c (after (tell (.running c.path)) s) hs
    exact ⟨_, (Moved.tell s (.running c.path)).trans hm, .executed hv hx⟩

end Harness

/-! ### Turns -/

/-- An example that has been dealt with. -/
structure Turn where
  candidate : Candidate
  outcome : Outcome
  /-- What was asked of the system until the outcome was known. -/
  asked : List Call

namespace Turn

/-- All that was asked of the system. A turn that came to its end found no interrupt. -/
def calls (x : Turn) : List Call := x.asked ++ [.checked false]

def line (st : Report.Style) (x : Turn) : Bytes :=
  Report.render st (Report.outcome x.candidate x.outcome)

/-- What is recorded in the tally. -/
def result (x : Turn) : Candidate × Outcome := (x.candidate, x.outcome)

/-- The outcome is what the example came to from a sane state. -/
def Earned (h : Host σ) (sane : σ → Prop) (cfg : Config) (x : Turn) : Prop :=
  ∃ s : Session σ, sane s.world ∧ answer (Harness.process h cfg x.candidate) s = .ok x.outcome

end Turn

/-- The turns lead from `s` to `t`, and each came to its end. -/
structure Went (cfg : Config) (st : Report.Style) (s t : Session (Logged σ)) (ts : List Turn) :
    Prop where
  processed : ∀ x ∈ ts, Processed cfg x.candidate x.asked (.ok x.outcome)
  calls : t.calls = s.calls ++ ts.flatMap Turn.calls
  out : t.out = s.out.put (ts.flatMap (Turn.line st))
  takes : s.out.Takes (ts.flatMap (Turn.line st))
  tally : t.tally = s.tally.recordAll (ts.map Turn.result)
  judged : considered t.told = considered s.told ++ ts.map (·.candidate.path)

/-- How a turn that began with the output `out` stopped the run, and the output after it. -/
inductive Stopped (cfg : Config) (st : Report.Style) (out : Sink) (c : Candidate) :
    List Call → Sink → Failure → Prop where
  | failed {ks : List Call} {e : Failure} (verdict : Processed cfg c ks (.error e)) :
      Stopped cfg st out c ks out e
  | unwritten {ks : List Call} {o : Outcome} (verdict : Processed cfg c ks (.ok o))
      (full : ¬ out.Takes (Turn.line st ⟨c, o, ks⟩)) :
      Stopped cfg st out c ks (out.put (Turn.line st ⟨c, o, ks⟩)) (.output .sinkFull)
  | interrupted {ks : List Call} {o : Outcome} (verdict : Processed cfg c ks (.ok o))
      (takes : out.Takes (Turn.line st ⟨c, o, ks⟩)) :
      Stopped cfg st out c (ks ++ [.checked true]) (out.put (Turn.line st ⟨c, o, ks⟩)) .interrupted

/-- The turn of `c` leads from `s` to `t`, where it stopped the run with a failure. -/
structure Halted (cfg : Config) (st : Report.Style) (s t : Session (Logged σ)) (c : Candidate)
    (e : Failure) : Prop where
  stopped : ∃ ks, Stopped cfg st s.out c ks t.out e ∧ t.calls = s.calls ++ ks
  judged : considered t.told = considered s.told ++ [c.path]

namespace Went

variable {cfg : Config} {st : Report.Style} {s t u : Session (Logged σ)} {ts us : List Turn}

/-- No turn has gone by. -/
lemma of_moved (h : Moved s t [] []) (hout : s.out.Takes []) : Went cfg st s t [] where
  processed := by simp
  calls := by simpa using h.calls
  out := by rw [h.out, List.flatMap_nil, Sink.put_nil hout]
  takes := hout
  tally := h.tally
  judged := by simpa using h.judged

lemma trans (h : Went cfg st s t ts) (h' : Went cfg st t u us) : Went cfg st s u (ts ++ us) where
  processed x hx := (List.mem_append.mp hx).elim (h.processed x) (h'.processed x)
  calls := by rw [h'.calls, h.calls, List.flatMap_append, List.append_assoc]
  out := by rw [h'.out, h.out, List.flatMap_append, Sink.put_put]
  takes := by
    rw [List.flatMap_append]
    exact Sink.takes_append.mpr ⟨h.takes, h.out ▸ h'.takes⟩
  tally := by rw [h'.tally, h.tally, List.map_append, Summary.recordAll_append]
  judged := by rw [h'.judged, h.judged, List.map_append, List.append_assoc]

lemma out_takes (h : Went cfg st s t ts) : t.out.Takes [] := h.out ▸ Sink.takes_nil_put _ _

lemma limit (h : Went cfg st s t ts) : t.out.limit = s.out.limit := by rw [h.out, Sink.limit_put]

lemma written (h : Went cfg st s t ts) :
    t.out.written = s.out.written ++ ts.flatMap (Turn.line st) := by
  rw [h.out, Sink.written_put h.takes]

end Went

namespace Harness

open Act

section

variable {h : Host σ} (st : Report.Style) {cfg : Config} {c : Candidate} {o : Outcome}
  {s u : Session σ} (process_ok : answer (process h cfg c) s = .ok o)
  (process_after : after (process h cfg c) s = u) (hout : u.out.Takes [])
include process_ok process_after hout

/-- A turn after the verdict, if its line fits. -/
lemma turn_of_takes (takes : u.out.Takes (Report.render st (Report.outcome c o))) :
    answer (turn h st cfg c) s =
        (if (h.check u.world).2 then .error .interrupted else .ok ()) ∧
      after (turn h st cfg c) s = {
        world := (h.check u.world).1
        out := u.out.put (Report.render st (Report.outcome c o))
        told := u.told
        tally := u.tally.record c o } := by
  set v : Session σ := ⟨u.world, u.out.put (Report.render st (Report.outcome c o)), u.told,
    u.tally.record c o⟩
  have hprint : answer (print st (Report.outcome c o)) (after (count c o) u) = .ok () :=
    answer_print_of_takes (s := after (count c o) u) st _ hout takes
  have hafter : after (print st (Report.outcome c o)) (after (count c o) u) = v :=
    after_print (s := after (count c o) u) st _ hout
  unfold turn
  rw [answer_bind_ok process_ok, after_bind_ok process_ok, process_after,
    answer_bind_ok (x := count c o) (a := ⟨⟩) rfl, after_bind_ok (x := count c o) (a := ⟨⟩) rfl,
    answer_bind_ok hprint, after_bind_ok hprint, hafter, answer_act_bind, after_act_bind]
  by_cases hb : (h.check v.world).2
  · rw [if_pos hb, if_pos (show (h.check u.world).2 from hb)]
    exact ⟨rfl, rfl⟩
  · rw [if_neg hb, if_neg (show ¬ (h.check u.world).2 from hb)]
    exact ⟨rfl, rfl⟩

/-- A turn that comes to its end finds no interrupt. -/
lemma unchecked_of_turn (takes : u.out.Takes (Report.render st (Report.outcome c o)))
    (ok : answer (turn h st cfg c) s = .ok ()) : (h.check u.world).2 = false := by
  obtain ⟨hchecked, -⟩ := turn_of_takes st process_ok process_after hout takes
  rw [ok] at hchecked
  cases hc : (h.check u.world).2 with
  | false => rfl
  | true =>
    rw [hc] at hchecked
    cases hchecked

/-- A turn after the verdict, if its line does not fit. -/
lemma turn_of_not_takes (full : ¬ u.out.Takes (Report.render st (Report.outcome c o))) :
    answer (turn h st cfg c) s = .error (.output .sinkFull) ∧
      after (turn h st cfg c) s = {
        world := u.world
        out := u.out.put (Report.render st (Report.outcome c o))
        told := u.told
        tally := u.tally.record c o } := by
  have hprint : answer (print st (Report.outcome c o)) (after (count c o) u) =
      .error (.output .sinkFull) :=
    answer_print_of_not_takes (s := after (count c o) u) st _ hout full
  have hafter := after_print (s := after (count c o) u) st (Report.outcome c o) hout
  unfold turn
  rw [answer_bind_ok process_ok, after_bind_ok process_ok, process_after,
    answer_bind_ok (x := count c o) (a := ⟨⟩) rfl, after_bind_ok (x := count c o) (a := ⟨⟩) rfl,
    answer_bind_error hprint, after_bind_error hprint, hafter]
  exact ⟨rfl, rfl⟩

end

/-- States that no call to the system leaves are not left by what a walk hands on. -/
lemma handle_closed {h : Host σ} {P : σ → Prop} (C : h.Closed P) (st : Report.Style) (cfg : Config)
    (f : Find) (s : Session σ) (hs : P s.world) :
    P (after ((walk h st cfg).handle f) s).world := by
  cases f with
  | found c => exact Alike.closed (turn_alike C.agree st cfg c) hs
  | unread p e => exact hs

/-- A turn whose line fits and that finds no interrupt has come to its end. -/
lemma went_turn {h : Host σ} (st : Report.Style) {cfg : Config} {c : Candidate} {o : Outcome}
    {ms : List (Moment σ)} {s u : Session (Logged σ)}
    (process_ok : answer (process h.logged cfg c) s = .ok o)
    (process_after : after (process h.logged cfg c) s = u) (hm : Moved s u ms [c.path])
    (hp : Processed cfg c (ms.map (·.call)) (.ok o)) (hout : s.out.Takes [])
    (takes : s.out.Takes (Report.render st (Report.outcome c o)))
    (unchecked : (h.check u.world.1).2 = false) :
    Went cfg st s (after (turn h.logged st cfg c) s) [⟨c, o, ms.map (·.call)⟩] := by
  have hcheck := (hm.trans (Moved.note u Call.checked h.check)).calls
  rw [unchecked, List.map_append] at hcheck
  obtain ⟨-, ht⟩ := turn_of_takes st process_ok process_after (hm.out.symm ▸ hout)
    (hm.out.symm ▸ takes)
  rw [ht, hm.out, hm.tally]
  exact {
    processed := by simpa using hp
    calls := by rw [List.flatMap_singleton]; exact hcheck
    out := by rw [List.flatMap_singleton]; rfl
    takes := by rwa [List.flatMap_singleton]
    tally := rfl
    judged := hm.judged }

variable {h : Host σ} (H : h.Reaps sane waited)
include H

lemma turn_logged (st : Report.Style) (cfg : Config) (c : Candidate) (s : Session (Logged σ))
    (hs : sane s.world.1) (hout : s.out.Takes []) :
    (∃ x : Turn, x.candidate = c ∧ answer (turn h.logged st cfg c) s = .ok () ∧
      Went cfg st s (after (turn h.logged st cfg c) s) [x] ∧ x.Earned h sane cfg) ∨
    (∃ e, answer (turn h.logged st cfg c) s = .error e ∧
      Halted cfg st s (after (turn h.logged st cfg c) s) c e) := by
  obtain ⟨ms, hm, hp⟩ := process_logged H cfg c s hs
  set u := after (process h.logged cfg c) s with hu
  have huo : u.out.Takes [] := hm.out.symm ▸ hout
  cases ha : answer (process h.logged cfg c) s with
  | error e =>
    unfold turn
    rw [answer_bind_error ha, after_bind_error ha]
    rw [ha] at hp
    exact .inr ⟨e, rfl, ⟨_, hm.out.symm ▸ .failed hp, hm.calls⟩, hm.judged⟩
  | ok o =>
    rw [ha] at hp
    set x : Turn := ⟨c, o, ms.map (·.call)⟩
    have earned : x.Earned h sane cfg := by
      set s' : Session σ := { s with world := s.world.1 }
      have hagree : Session.Agree (fun a b => a.1 = b) s s' := ⟨rfl, rfl, rfl, rfl⟩
      exact ⟨s', hs, (process_alike cfg (Host.logged_agree h).respects c s s' hagree).1 ▸ ha⟩
    by_cases hf : s.out.Takes (x.line st)
    · obtain ⟨hra, hrt⟩ := turn_of_takes st ha hu.symm huo (hm.out.symm ▸ hf)
      rw [hra, Host.check_logged]
      cases hb : (h.check u.world.1).2 with
      | false => exact .inl ⟨x, rfl, rfl, went_turn st ha hu.symm hm hp hout hf hb, earned⟩
      | true =>
        have hcheck := (hm.trans (Moved.note u Call.checked h.check)).calls
        rw [hb, List.map_append] at hcheck
        rw [hrt, hm.out]
        exact .inr ⟨.interrupted, rfl, ⟨_, .interrupted hp hf, hcheck⟩, hm.judged⟩
    · obtain ⟨hra, hrt⟩ := turn_of_not_takes st ha hu.symm huo (hm.out.symm ▸ hf)
      rw [hra, hrt, hm.out]
      exact .inr ⟨_, rfl, ⟨_, .unwritten hp hf, hm.calls⟩, hm.judged⟩

/-! ### The turns of a walk -/

lemma handle_logged (st : Report.Style) (cfg : Config) (f : Find) (s : Session (Logged σ))
    (hs : sane s.world.1) (hout : s.out.Takes []) :
    (∃ ts : List Turn, ts.map (·.candidate) = examplesOf [f] ∧
      answer ((walk h.logged st cfg).handle f) s = .ok () ∧
      Went cfg st s (after ((walk h.logged st cfg).handle f) s) ts ∧
      ∀ x ∈ ts, x.Earned h sane cfg) ∨
    (∃ c e, f = .found c ∧ answer ((walk h.logged st cfg).handle f) s = .error e ∧
      Halted cfg st s (after ((walk h.logged st cfg).handle f) s) c e) := by
  cases f with
  | found c =>
    rcases turn_logged H st cfg c s hs hout with ⟨x, hx, ha, hw, hx'⟩ | ⟨e, ha, hh⟩
    · exact .inl ⟨[x], by simp [hx], ha, hw, List.forall_mem_singleton.mpr hx'⟩
    · exact .inr ⟨c, e, rfl, ha, hh⟩
  | unread p e =>
    exact .inl ⟨[], rfl, rfl, .of_moved (.tell s (.unreadable p e)) hout, nofun⟩

/-- A walk through some finds is a list of turns that came to their end. Either these are all,
or the turn of the next example stops the run. -/
theorem finds_logged (st : Report.Style) (cfg : Config) (fs : List Find)
    (s : Session (Logged σ)) (hs : sane s.world.1) (hout : s.out.Takes []) :
    ∃ ts : List Turn,
      (answer (forM fs (walk h.logged st cfg).handle) s = .ok () ∧
        Went cfg st s (after (forM fs (walk h.logged st cfg).handle) s) ts ∧
        ts.map (·.candidate) = examplesOf fs ∧ ∀ x ∈ ts, x.Earned h sane cfg) ∨
      (∃ u c e, answer (forM fs (walk h.logged st cfg).handle) s = .error e ∧
        Went cfg st s u ts ∧ Halted cfg st u (after (forM fs (walk h.logged st cfg).handle) s) c e ∧
        ts.map (·.candidate) ++ [c] <+: examplesOf fs) := by
  induction fs generalizing s with
  | nil => exact ⟨[], .inl ⟨rfl, .of_moved (.refl s) hout, rfl, nofun⟩⟩
  | cons f fs ih =>
    rw [List.forM_cons, show examplesOf (f :: fs) = examplesOf [f] ++ examplesOf fs from
      examplesOf_append [f] fs]
    rcases handle_logged H st cfg f s hs hout with ⟨ts, hts, ha, hw, hte⟩ | ⟨c, e, rfl, ha, hh⟩
    · rw [answer_bind_ok ha, after_bind_ok ha]
      obtain ⟨us, ⟨hb, hv, hus, hue⟩ | ⟨u, c, e, hb, hv, hh, hpre⟩⟩ :=
        ih _ (handle_closed H.toClosed.logged st cfg f s hs) hw.out_takes
      · exact ⟨ts ++ us, .inl ⟨hb, hw.trans hv, by rw [List.map_append, hts, hus],
          List.forall_mem_append.mpr ⟨hte, hue⟩⟩⟩
      · refine ⟨ts ++ us, .inr ⟨u, c, e, hb, hw.trans hv, hh, ?_⟩⟩
        rw [List.map_append, hts, List.append_assoc]
        exact (List.prefix_append_right_inj _).mpr hpre
    · rw [answer_bind_error ha, after_bind_error ha]
      exact ⟨[], .inr ⟨s, c, e, rfl, .of_moved (.refl s) hout, hh, List.prefix_append [c] _⟩⟩

end Harness

end ExampleSuite
