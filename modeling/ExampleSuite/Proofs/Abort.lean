import ExampleSuite.Proofs.Interrupts
import ExampleSuite.Proofs.Runs
import ExampleSuite.Proofs.Verdict

/-!
Runs that are cut short.

An interpreter that cannot be started ends a run, and so does an interrupt. An interrupt may be
found by the watch over a child, which leaves the example without an outcome, or after the example
has been counted and printed. Whichever it is, the run ends with the turn of that example, and the
log holds nothing beyond it.
-/

namespace ExampleSuite

variable {σ : Type} {h : Host σ} {sane waited pending : σ → Prop}

/-! ### What comes after a child has been started -/

lemma Call.Keeps.calm {k : Call} (h : k.Keeps) : k.Calm := by
  cases k with
  | saw x =>
    cases x with
    | interrupted => exact h rfl
    | _ => trivial
  | killed _ | polled _ => trivial
  | _ => exact h.elim

lemma Terminated.keeps {known : Prop} {ks : List Call} (h : Terminated known ks) :
    ∀ k ∈ ks, k.Keeps := by
  cases h <;> simp [Call.Keeps]

lemma Supervised.keeps {c : Candidate} {ks : List Call} {o : Outcome}
    (h : Supervised c ks (.ok o)) : ∀ k ∈ ks, k.Keeps := by
  have saw {es : List Sight} (hes : Sight.interrupted ∉ es) : ∀ k ∈ es.map Call.saw, k.Keeps := by
    intro k hk
    obtain ⟨x, hx, rfl⟩ := List.mem_map.mp hk
    rintro rfl
    exact hes hx
  cases h with
  | ended all => exact saw fun hi => by simp [all.mem_iff] at hi
  | stopped left short gone =>
    cases short with
    | elapsed =>
      intro k hk
      rcases List.mem_append.mp hk with hk | hk
      · exact saw left.not_stopped.2 k hk
      · rcases List.mem_cons.mp hk with rfl | hk
        · exact Sight.noConfusion
        · exact gone.keeps k hk

/-- For an example that was counted no child was started, or one that went its way. -/
lemma Processed.asked_cases {cfg : Config} {c : Candidate} {ks : List Call} {o : Outcome}
    (h : Processed cfg c ks (.ok o)) :
    ks = [] ∨ ∃ k ls, ks = k :: ls ∧ k.Calm ∧ k.Watches ∧ ∀ k ∈ ls, k.Keeps := by
  cases h with
  | skipped rule => exact .inl rfl
  | executed rule run =>
    cases run with
    | started pid rest => exact .inr ⟨_, _, rfl, trivial, trivial, rest.keeps⟩

lemma Processed.calm {cfg : Config} {c : Candidate} {ks : List Call} {o : Outcome}
    (h : Processed cfg c ks (.ok o)) : ∀ k ∈ ks, k.Calm := by
  rcases h.asked_cases with rfl | ⟨k, ls, rfl, hk, -, hls⟩
  · simp
  · intro k' hk'
    rcases List.mem_cons.mp hk' with rfl | hk'
    · exact hk
    · exact (hls k' hk').calm

lemma Turn.calm {cfg : Config} {x : Turn}
    (h : Processed cfg x.candidate x.asked (.ok x.outcome)) : ∀ k ∈ x.calls, k.Calm := by
  intro k hk
  rcases List.mem_append.mp hk with hk | hk
  · exact h.calm k hk
  · rw [List.mem_singleton.mp hk]
    trivial

/-- All calls of a run are calm as long as its turns come to their ends. -/
lemma Turn.calm_all {cfg : Config} {ts : List Turn}
    (h : ∀ x ∈ ts, Processed cfg x.candidate x.asked (.ok x.outcome)) :
    ∀ k ∈ Call.listened :: ts.flatMap Turn.calls, k.Calm := by
  rw [List.forall_mem_cons]
  refine ⟨trivial, fun k hk => ?_⟩
  obtain ⟨x, hx, hk⟩ := List.mem_flatMap.mp hk
  exact Turn.calm (h x hx) k hk

/-- Once a child has been started, a turn that comes to its end asks for an interrupt and finds
none. -/
lemma Turn.asks {cfg : Config} {x : Turn}
    (h : Processed cfg x.candidate x.asked (.ok x.outcome)) {pre post : List Call} {k : Call}
    (hx : x.calls = pre ++ k :: post) (hk : k.Watches) :
    ∃ mid, post = mid ++ [.checked false] ∧ ∀ k ∈ mid, k.Keeps := by
  rcases List.append_eq_append_iff.mp hx with ⟨a, rfl, ha⟩ | ⟨a, hasked, ha⟩
  · rcases a with _ | ⟨y, a⟩
    · obtain ⟨rfl, -⟩ := List.cons_eq_cons.mp ha
      exact hk.elim
    · simp at ha
  · rcases a with _ | ⟨y, mid⟩
    · obtain ⟨rfl, -⟩ := List.cons_eq_cons.mp ha
      exact hk.elim
    · obtain ⟨rfl, rfl⟩ := List.cons_eq_cons.mp ha
      refine ⟨mid, rfl, ?_⟩
      rcases h.asked_cases with hnil | ⟨k', ls, hcons, -, -, hls⟩
      · rw [hnil] at hasked
        simp at hasked
      · rw [hcons] at hasked
        rcases pre with _ | ⟨y, pre⟩
        · obtain ⟨-, rfl⟩ := List.cons_eq_cons.mp hasked
          exact hls
        · obtain ⟨-, rfl⟩ := List.cons_eq_cons.mp hasked
          exact fun k' hk' => hls k' (List.mem_append_right _ (List.mem_cons_of_mem _ hk'))

/-- The same of some turns. -/
lemma turns_ask {cfg : Config} {ts : List Turn}
    (h : ∀ x ∈ ts, Processed cfg x.candidate x.asked (.ok x.outcome)) {pre post : List Call}
    {k : Call} (hx : ts.flatMap Turn.calls = pre ++ k :: post) (hk : k.Watches) :
    ∃ mid rest, post = mid ++ .checked false :: rest ∧ ∀ k ∈ mid, k.Keeps := by
  induction ts generalizing pre with
  | nil => simp at hx
  | cons x ts ih =>
    have hts : ∀ y ∈ ts, Processed cfg y.candidate y.asked (.ok y.outcome) :=
      fun y hy => h y (List.mem_cons_of_mem x hy)
    rw [List.flatMap_cons] at hx
    rcases List.append_eq_append_iff.mp hx with ⟨a, rfl, ha⟩ | ⟨a, hcalls, ha⟩
    · exact ih hts ha
    · rcases a with _ | ⟨y, a⟩
      · exact ih hts (show ts.flatMap Turn.calls = [] ++ k :: post from ha.symm)
      · obtain ⟨rfl, rfl⟩ := List.cons_eq_cons.mp ha
        obtain ⟨mid, rfl, hmid⟩ := Turn.asks (h x List.mem_cons_self) hcalls hk
        exact ⟨mid, ts.flatMap Turn.calls, by simp, hmid⟩

/-! ### What ends a run -/

/-- A moment that ends a run with the calls `ks` in the middle, the failure that it ends with, and
its exit status. -/
inductive Strikes (pending : σ → Prop) (limit : Option Nat) (ks : List Call) (m : Moment σ) :
    Failure → Nat → Prop where
  | refused {p c : Path} {n : Nat} {cause : Cause} (call : m.call = .started p c n (.error cause)) :
      Strikes pending limit ks m (.spawn p cause) 2
  | woken (call : m.call = .saw .interrupted) : Strikes pending limit ks m .interrupted 130
  | found (call : m.call = .checked true) : Strikes pending limit ks m .interrupted 130
  /-- An interrupt has arrived while a child is running, and nothing else ends the run. -/
  | arrived (room : limit = none) (tracked : Tracked ks) (call : m.call.Watches)
      (kept : pending m.state) : Strikes pending limit ks m .interrupted 130

/-- The turn in which a run ends: what is asked of the system, what is printed, and the failure. -/
inductive Broken (cfg : Config) (st : Report.Style) (c : Candidate) :
    List Call → Bytes → Failure → Prop where
  | refused (rule : cfg.rules.evaluate c = .proceed) (cause : Cause) :
      Broken cfg st c [.started cfg.interpreter.program c.path cfg.interpreter.budget
        (.error cause)] [] (.spawn cfg.interpreter.program cause)
  | woken (rule : cfg.rules.evaluate c = .proceed) (pid : Nat) {ks : List Call}
      (run : Supervised c ks (.error .interrupted)) :
      Broken cfg st c (.started cfg.interpreter.program c.path cfg.interpreter.budget (.ok pid) ::
        ks) [] .interrupted
  | found {ks : List Call} {o : Outcome} (verdict : Processed cfg c ks (.ok o)) :
      Broken cfg st c (ks ++ [.checked true]) (Turn.line st ⟨c, o, ks⟩) .interrupted

namespace Strikes

variable {limit : Option Nat} {asked : List Call} {m : Moment σ} {f : Failure} {n : Nat}

/-- A failed start is blamed on the interpreter. -/
lemma eq_spawn (hm : Strikes pending limit asked m f n) {p c : Path} {b : Nat} {cause : Cause}
    (hk : m.call = .started p c b (.error cause)) : f = .spawn p cause := by
  cases hm with
  | refused call =>
    rw [call] at hk
    obtain ⟨rfl, -, -, he⟩ := Call.started.inj hk
    rw [Except.error.inj he]
  | woken call => rw [call] at hk; cases hk
  | found call => rw [call] at hk; cases hk
  | arrived room tracked call kept => rw [hk] at call; exact call.elim

/-- Whatever else ends a run is an interrupt. -/
lemma eq_interrupted (hm : Strikes pending limit asked m f n)
    (hk : ∀ p c b cause, m.call ≠ .started p c b (.error cause)) : f = .interrupted := by
  cases hm with
  | refused call => exact absurd call (hk _ _ _ _)
  | woken call => rfl
  | found call => rfl
  | arrived room tracked call kept => rfl

/-- A calm moment ends a run only by an interrupt that will be found later. -/
lemma room (hm : Strikes pending limit asked m f n) (hk : m.call.Calm) : limit = none := by
  cases hm with
  | refused call => rw [call] at hk; exact hk.elim
  | woken call => rw [call] at hk; exact hk.elim
  | found call => rw [call] at hk; exact hk.elim
  | arrived room tracked call kept => exact room

lemma exitStatus (hm : Strikes pending limit asked m f n) : f.exitStatus = n := by
  cases hm <;> rfl

end Strikes

/-- What ends a run does not lie in a turn that came to its end. -/
lemma Strikes.beyond (C : h.Closed sane) (Q : h.Queues sane pending) {w b : σ} (hw : sane w)
    {limit : Option Nat} {cfg : Config} {ts : List Turn} {asked ks : List Call}
    {pre post : List (Moment σ)} {m : Moment σ} {f : Failure} {n : Nat}
    (hchain : h.Chain w (pre ++ m :: post) b) (hm : Strikes pending limit asked m f n)
    (hts : ∀ x ∈ ts, Processed cfg x.candidate x.asked (.ok x.outcome))
    (hcalls : (pre ++ m :: post).map (·.call) = .listened :: ts.flatMap Turn.calls ++ ks) :
    .listened :: ts.flatMap Turn.calls <+: pre.map (·.call) ∧ m.call ∈ ks := by
  rw [List.map_append, List.map_cons] at hcalls
  rcases List.append_eq_append_iff.mp hcalls with ⟨a, hpre, ha⟩ | ⟨a, hpre, rfl⟩
  · rcases a with _ | ⟨y, a⟩
    · rw [List.append_nil] at hpre
      rw [List.nil_append] at ha
      exact ⟨hpre ▸ List.prefix_refl _, ha ▸ List.mem_cons_self⟩
    · -- the moment lies before the last turn, where nothing but calm calls and no interrupt is
      obtain ⟨rfl, hpost⟩ := List.cons_eq_cons.mp ha
      have hcalm : m.call.Calm :=
        Turn.calm_all hts _ (hpre ▸ List.mem_append_right _ List.mem_cons_self)
      cases hm with
      | refused call => rw [call] at hcalm; exact hcalm.elim
      | woken call => rw [call] at hcalm; exact hcalm.elim
      | found call => rw [call] at hcalm; exact hcalm.elim
      | arrived room tracked call kept =>
        rcases hmap : pre.map (·.call) with _ | ⟨y, ps⟩
        · rw [hmap] at hpre
          obtain ⟨hl, -⟩ := List.cons_eq_cons.mp hpre
          rw [← hl] at call
          exact call.elim
        · rw [hmap] at hpre
          obtain ⟨-, hflat⟩ := List.cons_eq_cons.mp hpre
          obtain ⟨mid, rest, rfl, hmid⟩ := turns_ask hts hflat call
          rw [List.append_eq, List.append_assoc] at hpost
          obtain ⟨mid', tail, rfl, rfl, htail⟩ := List.map_eq_append_iff.mp hpost
          obtain ⟨k, post', rfl, hk, -⟩ := List.map_eq_cons_iff.mp htail
          have hfound := hchain.found C Q hw kept
            (fun k' hk' => hmid _ (List.mem_map_of_mem hk')) hk
          cases hfound
  · exact ⟨hpre ▸ List.prefix_append _ a, List.mem_append_right a List.mem_cons_self⟩

/-- A child that is lost is not struck. -/
lemma Strikes.not_lost {c : Candidate} {limit : Option Nat} {asked ks : List Call} {m : Moment σ}
    {f : Failure} {n pid : Nat} {i : Interpreter} {cause : Cause}
    (hm : Strikes pending limit asked m f n) (h : Supervised c ks (.error (.wait c.path cause)))
    (hk : m.call ∈ .started i.program c.path i.budget (.ok pid) :: ks)
    (sub : ks ⊆ asked) : False := by
  cases h with
  | @lost es _ o e all =>
    cases hm with
    | refused call => simp [call] at hk
    | woken call => simp [call, all.mem_iff] at hk
    | found call => simp [call] at hk
    | arrived room tracked call kept =>
      exact tracked cause (sub (List.mem_map_of_mem (all.mem_iff.mpr List.mem_cons_self)))
  | stopped left short gone => cases short

/-- A turn that is struck breaks the run, and prints what it prints in full. -/
lemma Stopped.broken {cfg : Config} {st : Report.Style} {out out' : Sink} {c : Candidate}
    {asked ks : List Call} {e f : Failure} {n : Nat} {m : Moment σ} (hout : out.Takes [])
    (h : Stopped cfg st out c ks out' e) (hm : Strikes pending out.limit asked m f n)
    (hk : m.call ∈ ks) (sub : ks ⊆ asked) :
    e = f ∧ ∃ own, Broken cfg st c ks own f ∧ out' = out.put own ∧ out.Takes own := by
  cases h with
  | failed verdict =>
    cases verdict with
    | executed rule run =>
      cases run with
      | refused cause =>
        obtain rfl := hm.eq_spawn (List.mem_singleton.mp hk)
        exact ⟨rfl, [], .refused rule cause, (Sink.put_nil hout).symm, hout⟩
      | started pid rest =>
        obtain rfl | ⟨cause, rfl, -⟩ := rest.failure
        rotate_left
        · exact (hm.not_lost rest hk fun k hk => sub (List.mem_cons_of_mem _ hk)).elim
        obtain rfl : f = .interrupted := hm.eq_interrupted fun p c b cause he => by
          rw [he] at hk
          rcases List.mem_cons.mp hk with hk | hk
          · cases hk
          · exact rest.not_started hk
        exact ⟨rfl, [], .woken rule pid rest, (Sink.put_nil hout).symm, hout⟩
  | unwritten verdict full =>
    exact absurd (Sink.takes_of_unlimited (hm.room (verdict.calm _ hk)) _) full
  | @interrupted ks o verdict takes =>
    obtain rfl : f = .interrupted := hm.eq_interrupted fun p c b cause he => by
      rw [he] at hk
      rcases List.mem_append.mp hk with hk | hk
      · exact verdict.calm _ hk
      · simp at hk
    exact ⟨rfl, _, .found verdict, rfl, takes⟩

namespace Harness

/-- An interpreter that cannot be started and an interrupt end a run in the turn of their example,
and no interrupt that arrives while a child is running gets lost. Printed are the banner and the
lines of the examples before, and the line of the example itself only if its outcome was there
first. No example beyond it is judged, started or printed. -/
theorem run_aborts (H : h.Reaps sane waited) (Q : h.Queues sane pending) (st : Report.Style)
    (cfg : Config) (w : σ) (limit : Option Nat) (hw : sane w) {pre post : List (Moment σ)}
    {m : Moment σ} {f : Failure} {status : Nat}
    (hlog : (Session.start w limit).passed (run h.logged st cfg) = pre ++ m :: post)
    (hm : Strikes pending limit ((Session.start w limit).asked (run h.logged st cfg)) m f status) :
    let s := Session.start w limit
    answer (run h st cfg) s = .error f ∧ f.exitStatus = status ∧
    ∃ (ts : List Turn) (c : Candidate) (ks : List Call) (own : Bytes),
      Broken cfg st c ks own f ∧
      (∀ x ∈ ts, Processed cfg x.candidate x.asked (.ok x.outcome)) ∧
      s.asked (run h.logged st cfg) = .listened :: ts.flatMap Turn.calls ++ ks ∧
      .listened :: ts.flatMap Turn.calls <+: pre.map (·.call) ∧
      (after (run h st cfg) s).out.written =
        Report.render st Report.banner ++ ts.flatMap (Turn.line st) ++ own ∧
      considered (after (run h st cfg) s).told = ts.map (·.candidate.path) ++ [c.path] ∧
      ∀ t, h.Still cfg.root t (pre ++ m :: post) →
        ts.map (·.candidate) ++ [c] <+: cfg.examples t h.cwd := by
  intro s
  obtain ⟨ha, ht⟩ := run_alike (Host.logged_agree h) st cfg s.logged s s.logged_agree
  have hr := run_logged H st cfg s.logged hw (Sink.takes_empty limit)
  have hchain : h.Chain w (pre ++ m :: post) (after (run h.logged st cfg) s.logged).world.1 :=
    hlog ▸ Alike.closed (run_alike (h.logged_chain w).agree st cfg) (s := s.logged) (.nil w)
  have hcalls : s.asked (run h.logged st cfg) = (pre ++ m :: post).map (·.call) :=
    congrArg (List.map Moment.call) hlog
  rw [← ha, ← ht.out, ← ht.told]
  have beyond (ts : List Turn) (ks : List Call)
      (hts : ∀ x ∈ ts, Processed cfg x.candidate x.asked (.ok x.outcome))
      (hks : s.asked (run h.logged st cfg) = .listened :: ts.flatMap Turn.calls ++ ks) :=
    hm.beyond H.toClosed Q hw hchain hts (hcalls.symm.trans hks)
  -- what strikes lies beyond the turns, so there are calls after them
  have through {ts : List Turn}
      (hts : ∀ x ∈ ts, Processed cfg x.candidate x.asked (.ok x.outcome))
      (hks : s.asked (run h.logged st cfg) = .listened :: ts.flatMap Turn.calls) : False :=
    List.not_mem_nil (beyond ts [] hts (hks.trans (List.append_nil _).symm)).2
  generalize answer (run h.logged st cfg) s.logged = r at hr ⊢
  cases hr with
  | refused why calls out judged =>
    rw [show s.asked (run h.logged st cfg) = [] from calls] at hcalls
    simp at hcalls
  | mute full calls out judged => exact (through (List.forall_mem_nil _) calls).elim
  | unsummed began went found full printed =>
    exact (through went.processed (printed.calls.trans (began.calls_turns went))).elim
  | finished began went found takes printed =>
    exact (through went.processed (printed.calls.trans (began.calls_turns went))).elim
  | @halted u v ts c e began went halted found =>
    obtain ⟨ks, hstop, hks⟩ := halted.stopped
    rw [began.calls_turns went] at hks
    obtain ⟨hpre, hmem⟩ := beyond ts ks went.processed hks
    have hm' : Strikes pending v.out.limit (s.asked (run h.logged st cfg)) m f status := by
      rwa [show v.out.limit = limit from began.limit went]
    obtain ⟨rfl, own, hbroken, hown, htakes⟩ :=
      hstop.broken went.out_takes hm' hmem
        (show ks ⊆ (after (run h.logged st cfg) s.logged).calls from
          hks ▸ List.subset_append_right _ ks)
    have hvo := began.out_turns went
    have hall : s.out.Takes
        (Report.render st Report.banner ++ ts.flatMap (Turn.line st) ++ own) :=
      Sink.takes_append.mpr ⟨began.takes_turns went, hvo ▸ htakes⟩
    refine ⟨rfl, hm.exitStatus, ts, c, ks, own, hbroken, went.processed, hks, hpre, ?_, ?_,
      fun t ht => found t fun k hk => ht k (hlog ▸ hk)⟩
    · rw [hown, hvo, Sink.put_put]
      exact Sink.written_put hall
    · rw [halted.judged, began.judged_turns went]
      rfl

/-- An interrupt arrives while the only example exits. It is found when the example has been
printed. -/
theorem pressed_aborts :
    let s := Session.start (.ready Script.disk₁ fun _ =>
      .ok ⟨[.exited (.code 0), .outClosed 0, .errClosed 0], true⟩) none
    answer (run (Script.host []) .plain Script.config₁) s = .error .interrupted ∧
      Failure.interrupted.exitStatus = 130 := by
  intro s
  let log := (after (run (Script.host []).logged .plain Script.config₁) s.logged).log
  have hexit : (log[2]?).map (fun m => (m.call, m.state.pending)) =
      some (.saw (.exited (.code 0)), true) := by decide +kernel
  obtain ⟨m, hget, hm⟩ := Option.map_eq_some_iff.mp hexit
  obtain ⟨hcall, hkept⟩ := Prod.ext_iff.mp hm
  obtain ⟨hlt, rfl⟩ := List.getElem?_eq_some_iff.mp hget
  have hlog : log = log.take 2 ++ log[2] :: log.drop 3 := by
    rw [List.getElem_cons_drop, List.take_append_drop]
  have strikes : Strikes (·.pending) none (log.map (·.call)) log[2] .interrupted 130 :=
    .arrived rfl (by decide +kernel) (by rw [show log[2].call = _ from hcall]; trivial) hkept
  obtain ⟨ha, hstatus, -⟩ := run_aborts (Script.host_reaps []) (Script.host_queues []) .plain
    Script.config₁ s.world none trivial hlog strikes
  exact ⟨ha, hstatus⟩

end Harness

end ExampleSuite
