import ExampleSuite.Proofs.Entries
import ExampleSuite.Proofs.Reporting

/-!
The log in colour.

A log in colour is the plain log with sequences put in that set the colour. They stand right before
and right after the marks of outcomes and the line that all passed. So whatever paths hold, and be
it such sequences of their own, taking all sequences out of both logs leaves the same.
-/

namespace ExampleSuite.Report

open Bytes (newline unlines)

/-! ### Colour sequences -/

def escape : UInt8 := 0x1B

def isDigit (b : UInt8) : Bool := 0x30 ≤ b && b ≤ 0x39

/-- An escape, a bracket, digits and an `m`. -/
def IsSequence (s : Bytes) : Prop :=
  ∃ ds, ds ≠ [] ∧ (∀ d ∈ ds, isDigit d) ∧ s = escape :: 0x5B :: (ds ++ [0x6D])

/-- What follows the sequence that a text begins with, if it begins with one. -/
def afterSequence? : Bytes → Option Bytes
  | a :: b :: bs =>
    if a = escape ∧ b = 0x5B ∧ bs.takeWhile isDigit ≠ [] then
      match bs.dropWhile isDigit with
      | c :: r => if c = 0x6D then some r else none
      | [] => none
    else none
  | _ => none

variable {s t x r : Bytes} {b : UInt8}

lemma afterSequence?_eq_some_iff : afterSequence? x = some r ↔ ∃ s, IsSequence s ∧ x = s ++ r := by
  constructor
  · intro h
    unfold afterSequence? at h
    split at h
    · next a b bs =>
      split_ifs at h with hseq
      obtain ⟨rfl, rfl, hds⟩ := hseq
      split at h
      · next c r' hdrop =>
        split_ifs at h with hc
        obtain rfl := Option.some.inj h
        refine ⟨_, ⟨_, hds, fun d hd => List.mem_takeWhile_imp hd, rfl⟩, ?_⟩
        rw [List.cons_append, List.cons_append, List.append_assoc, List.singleton_append, ← hc,
          ← hdrop, List.takeWhile_append_dropWhile]
      · cases h
    · cases h
  · rintro ⟨s, ⟨ds, hne, hds, rfl⟩, rfl⟩
    have htake : (ds ++ [0x6D] ++ r).takeWhile isDigit = ds := by
      rw [List.append_assoc, List.takeWhile_append_of_pos hds]
      exact List.append_nil ds
    have hdrop : (ds ++ [0x6D] ++ r).dropWhile isDigit = 0x6D :: r := by
      rw [List.append_assoc, List.dropWhile_append_of_pos hds]
      rfl
    rw [List.cons_append, List.cons_append, afterSequence?, htake, hdrop]
    simp [hne]

lemma length_lt_of_afterSequence? (h : afterSequence? x = some r) : r.length < x.length := by
  obtain ⟨s, ⟨ds, -, -, rfl⟩, rfl⟩ := afterSequence?_eq_some_iff.mp h
  simp
  omega

/-- The text without all its sequences. -/
def strip : Bytes → Bytes
  | [] => []
  | b :: bs =>
    match _h : afterSequence? (b :: bs) with
    | some r => strip r
    | none => b :: strip bs
termination_by bs => bs.length
decreasing_by
  · exact length_lt_of_afterSequence? ‹_›
  · exact Nat.lt_succ_self _

@[simp] lemma strip_nil : strip [] = [] := by rw [strip]

lemma strip_sequence (hs : IsSequence s) (r : Bytes) : strip (s ++ r) = strip r := by
  have h : afterSequence? (s ++ r) = some r := afterSequence?_eq_some_iff.mpr ⟨s, hs, rfl⟩
  obtain ⟨ds, -, -, rfl⟩ := hs
  rw [List.cons_append, strip]
  rw [List.cons_append] at h
  split
  · next r' h' => rw [h] at h'; rw [Option.some.inj h']
  · next h' => rw [h] at h'; cases h'

lemma strip_cons_of_none (h : afterSequence? (b :: x) = none) : strip (b :: x) = b :: strip x := by
  rw [strip]
  split
  · next r h' => rw [h] at h'; cases h'
  · rfl

lemma afterSequence?_eq_none_of_ne (h : b ≠ escape) : afterSequence? (b :: x) = none := by
  refine Option.eq_none_iff_forall_ne_some.mpr fun r hr => h ?_
  obtain ⟨s, ⟨ds, -, -, rfl⟩, hx⟩ := afterSequence?_eq_some_iff.mp hr
  exact (List.cons.inj hx).1

/-- A text without escapes stays as it is. -/
lemma strip_append_of_notMem (h : escape ∉ t) (r : Bytes) : strip (t ++ r) = t ++ strip r := by
  induction t with
  | nil => rfl
  | cons b t ih =>
    obtain ⟨hb, ht⟩ := not_or.mp (List.mem_cons.not.mp h)
    rw [List.cons_append, strip_cons_of_none (afterSequence?_eq_none_of_ne (Ne.symm hb)), ih ht]
    rfl

/-- No sequence goes on beyond a newline. -/
lemma afterSequence?_append_newline (h : afterSequence? x = none) (r : Bytes) :
    afterSequence? (x ++ newline :: r) = none := by
  refine Option.eq_none_iff_forall_ne_some.mpr fun r' hr => ?_
  obtain ⟨s, hs, heq⟩ := afterSequence?_eq_some_iff.mp hr
  have hnone (r : Bytes) : x ≠ s ++ r := fun hx => by
    rw [afterSequence?_eq_some_iff.mpr ⟨s, hs, hx⟩] at h
    cases h
  rcases List.append_eq_append_iff.mp heq with ⟨cs, rfl, hcs⟩ | ⟨cs, hx, -⟩
  · rcases cs with _ | ⟨c, cs⟩
    · exact hnone [] (by simp)
    · obtain ⟨rfl, -⟩ := List.cons.inj hcs
      obtain ⟨ds, -, hds, hseq⟩ := hs
      have hmem : newline ∈ escape :: 0x5B :: (ds ++ [0x6D]) := hseq ▸ by simp
      simp only [List.mem_cons, List.mem_append, List.not_mem_nil, or_false] at hmem
      rcases hmem with h | h | h | h
      · exact absurd h (by decide)
      · exact absurd h (by decide)
      · exact absurd (hds _ h) (by decide)
      · exact absurd h (by decide)
  · exact hnone cs hx

/-- What comes behind a newline does not matter before it. -/
lemma strip_append_newline (x r : Bytes) :
    strip (x ++ newline :: r) = strip x ++ newline :: strip r := by
  fun_induction strip x with
  | case1 => exact strip_cons_of_none (afterSequence?_eq_none_of_ne (by decide))
  | case2 b bs r' h ih =>
    obtain ⟨s, hs, hx⟩ := afterSequence?_eq_some_iff.mp h
    rw [hx, List.append_assoc, strip_sequence hs, ih]
  | case3 b bs h ih =>
    have hnone : afterSequence? (b :: (bs ++ newline :: r)) = none :=
      afterSequence?_append_newline h r
    rw [List.cons_append, strip_cons_of_none hnone, ih]
    rfl

/-! ### Stretches of the log -/

def Colour.sequences (c : Colour) : List Bytes :=
  [Bytes.ofString reset, Bytes.ofString "\x1b[1m", Bytes.ofString ("\x1b[3" ++ c.digit ++ "m")]

/-- A stretch of the log. -/
inductive Span where
  | bare (bs : Bytes)
  /-- A text in colour. -/
  | coloured (c : Colour) (t : String)

namespace Span

/-- The sequences that are put in around a text in colour stand right before and right after it. -/
def render : Style → Span → Bytes
  | _, bare bs => bs
  | .plain, coloured _ t => Bytes.ofString t
  | .ansi, coloured c t => c.sequences.flatten ++ Bytes.ofString t ++ Bytes.ofString reset

/-- The sequences that are put in, in order. -/
def inserted : Span → List Bytes
  | bare _ => []
  | coloured c _ => c.sequences ++ [Bytes.ofString reset]

/-- A stretch that no sequence can begin in and go on beyond. -/
def Closed : Span → Prop
  | bare bs => ∃ x, bs = x ++ [newline]
  | coloured _ t => escape ∉ Bytes.ofString t

end Span

lemma isSequence_reset : IsSequence (Bytes.ofString reset) :=
  ⟨[0x30], by decide, by decide +kernel, by decide +kernel⟩

lemma Colour.isSequence {c : Colour} {q : Bytes} (h : q ∈ c.sequences) : IsSequence q := by
  rcases List.mem_cons.mp h with rfl | h
  · exact isSequence_reset
  rcases List.mem_cons.mp h with rfl | h
  · exact ⟨[0x31], by decide, by decide +kernel, by decide +kernel⟩
  obtain rfl := List.mem_singleton.mp h
  cases c
  · exact ⟨[0x33, 0x31], by decide, by decide +kernel, by decide +kernel⟩
  · exact ⟨[0x33, 0x32], by decide, by decide +kernel, by decide +kernel⟩
  · exact ⟨[0x33, 0x33], by decide, by decide +kernel, by decide +kernel⟩

namespace Span

lemma isSequence {z : Span} {q : Bytes} (h : q ∈ z.inserted) : IsSequence q := by
  cases z with
  | bare bs => cases h
  | coloured c t =>
    rcases List.mem_append.mp h with h | h
    · exact c.isSequence h
    · rw [List.mem_singleton.mp h]
      exact isSequence_reset

end Span

lemma strip_sequences {qs : List Bytes} (h : ∀ q ∈ qs, IsSequence q) (r : Bytes) :
    strip (qs.flatten ++ r) = strip r := by
  induction qs with
  | nil => rfl
  | cons q qs ih =>
    rw [List.flatten_cons, List.append_assoc, strip_sequence (h q List.mem_cons_self),
      ih fun q' hq => h q' (List.mem_cons_of_mem q hq)]

/-- In either style a closed stretch comes to the same without sequences, whatever follows it. -/
lemma Span.strip_render {z : Span} (hz : z.Closed) (st : Style) (r : Bytes) :
    strip (z.render st ++ r) = strip (z.render .plain) ++ strip r := by
  cases z with
  | bare bs =>
    obtain ⟨x, rfl⟩ := hz
    have hr : (bare (x ++ [newline])).render st ++ r = x ++ newline :: r := by
      cases st <;> simp [render]
    rw [hr, strip_append_newline]
    show _ = strip (x ++ newline :: []) ++ _
    rw [strip_append_newline, strip_nil, List.append_assoc]
    rfl
  | coloured c t =>
    have hplain (r : Bytes) : strip (Bytes.ofString t ++ r) = Bytes.ofString t ++ strip r :=
      strip_append_of_notMem hz r
    have halone : strip (Bytes.ofString t) = Bytes.ofString t := by
      have h := hplain []
      rwa [List.append_nil, strip_nil, List.append_nil] at h
    cases st with
    | plain => rw [render, hplain, halone]
    | ansi =>
      rw [render, render, List.append_assoc, List.append_assoc,
        strip_sequences fun q => c.isSequence, hplain, strip_sequence isSequence_reset, halone]

lemma strip_flatMap_render {zs : List Span} (h : ∀ z ∈ zs, z.Closed) (st : Style) :
    strip (zs.flatMap (Span.render st)) = zs.flatMap fun z => strip (z.render .plain) := by
  induction zs with
  | nil => exact strip_nil
  | cons z zs ih =>
    rw [List.flatMap_cons, Span.strip_render (h z List.mem_cons_self),
      ih fun y hy => h y (List.mem_cons_of_mem z hy), List.flatMap_cons]

/-- Whatever the stretches, the colour that was set last is no colour. -/
lemma getLast?_inserted (zs : List Span) :
    zs.flatMap Span.inserted = [] ∨
      (zs.flatMap Span.inserted).getLast? = some (Bytes.ofString reset) := by
  induction zs using List.reverseRecOn with
  | nil => exact .inl rfl
  | append_singleton zs z ih =>
    rw [List.flatMap_append, List.flatMap_singleton]
    cases z with
    | bare bs => rwa [Span.inserted, List.append_nil]
    | coloured c t =>
      refine .inr ?_
      rw [Span.inserted, ← List.append_assoc, List.getLast?_concat]

/-! ### The stretches of a log -/

/-- The stretches of what a step prints, if `y` has been counted. -/
def Step.spans (y : Summary) : Step → List Span
  | .banner => [.bare (unlines opening)]
  | .outcome c o =>
    [.coloured (marker o).1 (marker o).2,
      .bare (Bytes.ofString ": " ++ shown c.path ++ Bytes.ofString (remark o) ++ [newline])]
  | .record _ _ => []
  | .summary =>
    .bare (unlines (figures y)) ::
      if y.hasFailures then [.bare (unlines (failedFiles y.failing))]
      else [.coloured .green "✅ All tests passed!", .bare [newline]]

/-- The stretches of all that some steps print, if `y` has been counted before them. -/
def spans (y : Summary) : List Step → List Span
  | [] => []
  | x :: xs => x.spans y ++ spans (y.recordAll x.counts) xs

lemma render_mark (st : Style) (c : Colour) (t : String) :
    render st (mark c t) = (Span.coloured c t).render st := by
  cases st with
  | plain => simp [render, mark, Span.render, Piece.render]
  | ansi =>
    have hpaint : Piece.render .ansi (.paint c) = c.sequences.flatten := by
      cases c <;> decide +kernel
    rw [mark, render, List.flatMap_cons, hpaint, Span.render, List.append_assoc]
    rfl

lemma Step.render_parts (st : Style) (y : Summary) (x : Step) :
    render st (x.parts y) = (x.spans y).flatMap (Span.render st) := by
  have hbare (bs : Bytes) : (Span.bare bs).render st = bs := by cases st <;> rfl
  cases x with
  | banner => simp [parts, spans, render_banner, hbare]
  | outcome c o =>
    rw [parts, Report.outcome, render_append, render_mark]
    simp [spans, hbare, render, Bytes.ofString_append, ofString_newline]
  | record c o => rfl
  | summary =>
    rw [parts, render_figures, spans, List.flatMap_cons, hbare]
    refine congrArg (unlines (figures y) ++ ·) ?_
    rw [render_verdict]
    split_ifs
    · simp [hbare]
    · simp [hbare, allPassed, render_mark]

lemma log_eq (st : Style) (y : Summary) (xs : List Step) :
    log st y xs = (spans y xs).flatMap (Span.render st) := by
  induction xs generalizing y with
  | nil => rfl
  | cons x xs ih => rw [log, spans, List.flatMap_append, x.render_parts, ih]

lemma closed_unlines {ls : List Bytes} (h : ls ≠ []) : (Span.bare (unlines ls)).Closed := by
  obtain ⟨ms, l, rfl⟩ := (List.eq_nil_or_concat ls).resolve_left h
  exact ⟨unlines ms ++ l, by simp⟩

/-- Each line of a log ends before what is in colour on the next begins. -/
lemma Step.closed {y : Summary} {x : Step} {z : Span} (h : z ∈ x.spans y) : z.Closed := by
  cases x with
  | banner =>
    rw [List.mem_singleton.mp h]
    exact closed_unlines (by simp [opening])
  | outcome c o =>
    rcases List.mem_cons.mp h with rfl | h
    · show escape ∉ Bytes.ofString (marker o).2
      cases o <;> simp only [marker] <;> decide +kernel
    · rw [List.mem_singleton.mp h]
      exact ⟨_, rfl⟩
  | record c o => cases h
  | summary =>
    rcases List.mem_cons.mp h with rfl | h
    · exact closed_unlines (by simp [figures])
    split_ifs at h
    · rw [List.mem_singleton.mp h]
      exact closed_unlines (List.cons_ne_nil _ _)
    · rcases List.mem_cons.mp h with rfl | h
      · show escape ∉ Bytes.ofString "✅ All tests passed!"
        decide +kernel
      · rw [List.mem_singleton.mp h]
        exact ⟨[], rfl⟩

lemma closed_of_mem_spans {y : Summary} {xs : List Step} {z : Span} (h : z ∈ spans y xs) :
    z.Closed := by
  induction xs generalizing y with
  | nil => cases h
  | cons x xs ih => exact (List.mem_append.mp h).elim Step.closed ih

variable {σ : Type}

/-- With all sequences taken out, the log in colour is the plain log without those that paths hold.
Both are the same stretches, and around a mark or the line that all passed the log in colour has
whole sequences put in. Wherever a stretch ends, and so at the end of each step that is printed to
its end, the last of them has set the colour back. -/
theorem steps_coloured (xs : List Step) (x : Step) (w : σ) (limit : Option Nat) :
    let log (st : Style) := (leave st xs (Session.start w none)).out.written
    let zs := spans .empty xs
    let s := leave .ansi xs (Session.start w limit)
    let ys := x.spans s.tally
    strip (log .ansi) = strip (log .plain) ∧
    (∀ st, log st = zs.flatMap (Span.render st)) ∧
    (∀ z ∈ zs, ∀ q ∈ z.inserted, IsSequence q) ∧
    (∀ k, let qs := (zs.take k).flatMap Span.inserted
      qs = [] ∨ qs.getLast? = some (Bytes.ofString reset)) ∧
    (answer (x.perform .ansi) s = .ok () →
      (after (x.perform .ansi) s).out.written =
        s.out.written ++ ys.flatMap (Span.render .ansi) ∧
      (ys.flatMap Span.inserted = [] ∨
        (ys.flatMap Span.inserted).getLast? = some (Bytes.ofString reset))) := by
  intro log zs s ys
  have hlog (st : Style) : log st = zs.flatMap (Span.render st) := by
    rw [← log_eq]
    exact congrArg (·.out.written) (leave_start st xs w none)
  have hstrip (st : Style) : strip (log st) = zs.flatMap fun z => strip (z.render .plain) := by
    rw [hlog, strip_flatMap_render fun z => closed_of_mem_spans]
  refine ⟨(hstrip .ansi).trans (hstrip .plain).symm, hlog, fun z _ q => z.isSequence,
    fun k => getLast?_inserted _, fun ok => ⟨?_, getLast?_inserted _⟩⟩
  have hs : s.out.Takes [] := takes_nil_leave_start .ansi xs w limit
  have takes : s.out.Takes (render .ansi (x.parts s.tally)) := by
    rw [Step.answer_perform .ansi x hs] at ok
    by_contra full
    rw [if_neg full] at ok
    cases ok
  rw [Step.after_perform .ansi x hs, ← Step.render_parts]
  exact Sink.written_put takes

/-- A path with a whole sequence in it, which breaks off in another one. -/
theorem escaped_coloured :
    let c : Candidate := ⟨Bytes.ofString "a\x1b[1m\x1b[3"⟩
    let xs : List Step := [.outcome c .passed, .record c .passed]
    let log (st : Style) := (leave st xs (Session.start () none)).out.written
    let s := leave .ansi xs (Session.start () (some 200))
    let ys := Step.summary.spans s.tally
    strip (log .ansi) = strip (log .plain) ∧
    answer (Step.perform .ansi .summary) s = .ok () ∧
    (after (Step.perform .ansi .summary) s).out.written =
      s.out.written ++ ys.flatMap (Span.render .ansi) := by
  intro c xs log s ys
  have ok : answer (Step.perform .ansi .summary) s = .ok () := by
    rw [Step.answer_perform .ansi .summary (takes_nil_leave_start .ansi xs () (some 200))]
    exact if_pos (by decide +kernel)
  have coloured := steps_coloured xs .summary () (some 200)
  extract_lets at coloured
  obtain ⟨same, -, -, -, completed⟩ := coloured
  exact ⟨same, ok, (completed ok).1⟩

end ExampleSuite.Report
