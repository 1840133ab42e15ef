import ExampleSuite.Harness
import ExampleSuite.Proofs.Answer

/-!
What a run has written.

However the log is cut into parts and the parts into pieces, an output holds as much of it as
fits, and printing a part succeeds if and only if all of the log so far fits.
-/

namespace ExampleSuite

namespace Sink

variable {limit : Option Nat} {s : Sink} {bs cs : Bytes}

lemma upTo_of_fits (h : fits limit bs) : upTo limit bs = bs := by
  cases limit with
  | none => rfl
  | some n => exact List.take_of_length_le (by simpa [fits] using h)

lemma fits_upTo (limit : Option Nat) (bs : Bytes) : fits limit (upTo limit bs) := by
  cases limit with
  | none => rfl
  | some n => exact decide_eq_true (List.length_take_le n bs)

lemma fits_of_fits_append (h : fits limit (bs ++ cs)) : fits limit bs := by
  cases limit with
  | none => rfl
  | some n =>
    simp only [fits, List.length_append, decide_eq_true_eq] at h ⊢
    omega

lemma upTo_append_of_not_fits (h : ¬ fits limit bs) : upTo limit (bs ++ cs) = upTo limit bs := by
  cases limit with
  | none => exact absurd rfl h
  | some n =>
    refine List.take_append_of_le_length ?_
    simp only [fits, decide_eq_true_eq] at h
    omega

lemma upTo_upTo_append (limit : Option Nat) (bs cs : Bytes) :
    upTo limit (upTo limit bs ++ cs) = upTo limit (bs ++ cs) := by
  by_cases h : fits limit bs
  · rw [upTo_of_fits h]
  · rw [upTo_append_of_not_fits h]
    cases limit with
    | none => exact absurd rfl h
    | some n =>
      simp only [fits, decide_eq_true_eq] at h
      show (bs.take n ++ cs).take n = bs.take n
      rw [List.take_append_of_le_length (by rw [List.length_take]; omega), List.take_take,
        Nat.min_self]

/-! ### Storing what fits -/

/-- The output after a byte string, of which it takes what fits. -/
def put (s : Sink) (bs : Bytes) : Sink := { s with written := upTo s.limit (s.written ++ bs) }

/-- All of a byte string fits. -/
def Takes (s : Sink) (bs : Bytes) : Prop := fits s.limit (s.written ++ bs)

instance (s : Sink) (bs : Bytes) : Decidable (s.Takes bs) :=
  inferInstanceAs (Decidable (fits s.limit (s.written ++ bs)))

@[simp] lemma limit_put (s : Sink) (bs : Bytes) : (s.put bs).limit = s.limit := rfl

lemma written_put (h : s.Takes bs) : (s.put bs).written = s.written ++ bs := upTo_of_fits h

@[simp] lemma put_put (s : Sink) (bs cs : Bytes) : (s.put bs).put cs = s.put (bs ++ cs) := by
  simp only [put, upTo_upTo_append, List.append_assoc]

lemma put_nil (h : s.Takes []) : s.put [] = s := by
  rw [Takes, List.append_nil] at h
  rw [put, List.append_nil, upTo_of_fits h]

lemma takes_append : s.Takes (bs ++ cs) ↔ s.Takes bs ∧ (s.put bs).Takes cs := by
  refine ⟨fun h => ?_, fun ⟨h, h'⟩ => ?_⟩
  · rw [Takes, ← List.append_assoc] at h
    have hb : s.Takes bs := fits_of_fits_append h
    exact ⟨hb, by rwa [Takes, written_put hb]⟩
  · rwa [Takes, written_put h, List.append_assoc] at h'

/-- What is stored fits. -/
lemma takes_nil_put (s : Sink) (bs : Bytes) : (s.put bs).Takes [] := by
  rw [Takes, List.append_nil]
  exact fits_upTo _ _

lemma takes_empty (limit : Option Nat) : (Sink.empty limit).Takes [] := by
  cases limit <;> simp [Takes, fits, Sink.empty]

lemma takes_of_unlimited (h : s.limit = none) (bs : Bytes) : s.Takes bs := by
  rw [Takes, h]
  rfl

theorem writeAll_eq (hs : s.Takes []) (bs : List Bytes) :
    s.writeAll bs = (s.put bs.flatten, fits s.limit (s.written ++ bs.flatten)) := by
  induction bs generalizing s with
  | nil => rw [writeAll, List.flatten_nil, put_nil hs, hs]
  | cons b bs ih =>
    rw [writeAll, List.flatten_cons]
    by_cases hb : s.Takes b
    · have hw : s.write b = (s.put b, true) := congrArg (s.put b, ·) hb
      rw [hw]
      dsimp only
      rw [ih (takes_nil_put s b), put_put, written_put hb, limit_put, List.append_assoc]
    · have hw : s.write b = (s.put b, false) := congrArg (s.put b, ·) (Bool.eq_false_iff.mpr hb)
      have hn : fits s.limit (s.written ++ (b ++ bs.flatten)) = false :=
        Bool.eq_false_iff.mpr fun h => hb (takes_append.mp h).1
      have hp : s.put (b ++ bs.flatten) = s.put b := by
        rw [put, ← List.append_assoc, upTo_append_of_not_fits hb]
        rfl
      rw [hw, hn, hp]

end Sink

theorem Report.print_eq (st : Style) {out : Sink} (hout : out.Takes []) (ps : List Piece) :
    print st out ps =
      (out.put (render st ps), Sink.fits out.limit (out.written ++ render st ps)) := by
  rw [print, Sink.writeAll_eq hout, render, List.flatMap_def]

namespace Harness

variable {σ : Type} {s : Session σ} (st : Report.Style) (ps : List Report.Piece)

@[simp] lemma world_print : (after (print st ps) s).world = s.world := by
  unfold print
  rw [after_bind_ok (answer_get s), after_get]
  dsimp only
  cases (Report.print st s.out ps).2 <;> rfl

/-- Whether a part of the log fits or not, what fits of it is written. -/
lemma after_print (hout : s.out.Takes []) :
    after (print st ps) s = { s with out := s.out.put (Report.render st ps) } := by
  unfold print
  rw [after_bind_ok (answer_get s), after_get, Report.print_eq st hout]
  dsimp only
  cases Sink.fits s.out.limit (s.out.written ++ Report.render st ps) <;> rfl

/-- A part of the log that does not fit ends the run. -/
lemma answer_print (hout : s.out.Takes []) :
    answer (print st ps) s =
      if s.out.Takes (Report.render st ps) then .ok () else .error (.output .sinkFull) := by
  unfold print
  rw [answer_bind_ok (answer_get s), after_get, Report.print_eq st hout]
  by_cases h : s.out.Takes (Report.render st ps)
  · rw [if_pos h, h]
    rfl
  · rw [if_neg h, Bool.eq_false_iff.mpr h]
    rfl

lemma answer_print_of_takes (hout : s.out.Takes []) (h : s.out.Takes (Report.render st ps)) :
    answer (print st ps) s = .ok () := by rw [answer_print st ps hout, if_pos h]

lemma answer_print_of_not_takes (hout : s.out.Takes [])
    (h : ¬ s.out.Takes (Report.render st ps)) :
    answer (print st ps) s = .error (.output .sinkFull) := by
  rw [answer_print st ps hout, if_neg h]

end Harness

end ExampleSuite
