import ExampleSuite.Yaml.Token
import Mathlib

/-!
Scalars that are read back as written.

A text of letters, digits and a few marks is a plain scalar as it stands, and any text is a scalar
between double quotes, with characters in it written as their numbers. What is read is followed by
the cursor behind it.
-/

namespace ExampleSuite.Yaml

/-! ### Marks -/

@[simp] lemma Mark.skip_skip (m : Mark) (a b : ℕ) : (m.skip a).skip b = m.skip (a + b) := by
  simp [Mark.skip, Nat.add_assoc]

@[simp] lemma Mark.skip_zero (m : Mark) : m.skip 0 = m := rfl

@[simp] lemma Mark.skip_col (m : Mark) (n : ℕ) : (m.skip n).col = m.col + n := rfl

@[simp] lemma Mark.skip_line (m : Mark) (n : ℕ) : (m.skip n).line = m.line := rfl

@[simp] lemma Mark.skip_index (m : Mark) (n : ℕ) : (m.skip n).index = m.index + n := rfl

lemma Mark.past_eq_skip {c : Char} (hc : c.toNat < 128) (m : Mark) : m.past c = m.skip 1 := by
  have hsize : c.utf8Size = 1 := Char.utf8Size_eq_one_iff.mpr (Nat.le_of_lt_succ hc)
  simp [Mark.past, Mark.skip, hsize]

/-! ### Plain scalars -/

/-- A letter, a digit, or a mark that means nothing by itself. -/
def Bare (c : Char) : Prop := c.isAlphanum ∨ c ∈ ['.', '_', '-', '/']

instance (c : Char) : Decidable (Bare c) := inferInstanceAs (Decidable (_ ∨ _))

section plain

variable {c : Char} {w r : List Char} {m : Mark} {flow : Bool}

lemma Bare.toNat_lt (h : Bare c) : c.toNat < 128 := by
  rcases h with h | h
  · simp only [Char.isAlphanum, Char.isAlpha, Char.isUpper, Char.isLower, Char.isDigit,
      Bool.or_eq_true, Bool.and_eq_true, decide_eq_true_eq, UInt32.le_iff_toNat_le] at h
    change ((65 ≤ c.toNat ∧ c.toNat ≤ 90) ∨ (97 ≤ c.toNat ∧ c.toNat ≤ 122)) ∨
      (48 ≤ c.toNat ∧ c.toNat ≤ 57) at h
    omega
  · simp only [List.mem_cons, List.not_mem_nil, or_false] at h
    rcases h with rfl | rfl | rfl | rfl <;> decide

/-- What holds of the characters of one octet, which can be gone through. -/
lemma forall_ascii {P : Char → Prop} [DecidablePred P] (hP : ∀ n : Fin 128, P (Char.ofNat n))
    (hc : c.toNat < 128) : P c := by
  simpa using hP ⟨c.toNat, hc⟩

lemma Bare.spec (h : Bare c) : isPrintable c ∧ isGap c = false ∧ isFlowMark c = false ∧ c ≠ ':' ∧
    c ≠ '"' ∧ c ≠ '\\' ∧ 0x20 ≤ c.toNat ∧ c.toNat ≤ 0x7E ∧ (c ≠ '-' → Scan.isIndicator c = false) :=
  forall_ascii (P := fun c => Bare c → isPrintable c ∧ isGap c = false ∧ isFlowMark c = false ∧
    c ≠ ':' ∧ c ≠ '"' ∧ c ≠ '\\' ∧ 0x20 ≤ c.toNat ∧ c.toNat ≤ 0x7E ∧
      (c ≠ '-' → Scan.isIndicator c = false)) (by decide +kernel) h.toNat_lt h

/-- A run of a plain scalar ends where another one has no text. -/
lemma plainRun_append (hw : ∀ c ∈ w, Bare c) (hr : ∀ m, plainRun flow r m = some ([], ⟨r, m⟩))
    (m : Mark) : plainRun flow (w ++ r) m = some (w, ⟨r, m.skip w.length⟩) := by
  induction w generalizing m with
  | nil => exact hr m
  | cons c w ih =>
    obtain ⟨hc, hw⟩ := List.forall_mem_cons.mp hw
    obtain ⟨-, hgap, hflow, hcolon, -⟩ := hc.spec
    simp only [List.cons_append, plainRun, hgap, hflow, hcolon]
    simp [ih hw, Mark.past_eq_skip hc.toNat_lt, Nat.add_comm 1]

/-- The first stretch of a plain scalar, and what is made of the gap behind it. -/
lemma plain_eq (hne : w ≠ []) (hw : ∀ c ∈ w, Bare c)
    (hm : m.col ≠ 0 ∨ separatorNext (w ++ r) = false)
    (hr : ∀ m, plainRun flow r m = some ([], ⟨r, m⟩)) (indent : ℕ) :
    plain flow indent ⟨w ++ r, m⟩ =
      let k : Cursor := ⟨r, m.skip w.length⟩
      if r = [] ∨ !gapNext r then some ⟨w, k.mark, false, k⟩
      else (plainGap indent r k.mark .none).bind fun (g, k') =>
        if !flow ∧ k'.mark.col < indent then some ⟨w, k.mark, g.broken, k'⟩
        else (plainRest flow indent (w ++ r).length k' g k.mark).map fun p =>
          { p with text := w ++ p.text } := by
  obtain ⟨c, w, rfl⟩ := List.exists_cons_of_ne_nil hne
  have hsep : ¬((m.col = 0 ∧ separatorNext (c :: w ++ r)) ∨
      (Cursor.head ⟨c :: w ++ r, m⟩) = some '#') := by
    have hc : c ≠ '#' := by
      rintro rfl
      exact absurd (hw '#' (by simp)) (by decide)
    rcases hm with hm | hm
    · simp [hm, hc, Cursor.head]
    · rw [hm]
      simp [hc, Cursor.head]
  simp only [plain, plainRest, hsep, if_false, plainRun_append hw hr, Option.bind_eq_bind,
    Option.bind_some, Option.map_eq_bind]
  simp [Gap.none, Gap.text]

/-- A plain scalar that something on its line ends. -/
lemma plain_append (hne : w ≠ []) (hw : ∀ c ∈ w, Bare c)
    (hm : m.col ≠ 0 ∨ separatorNext (w ++ r) = false)
    (hr : ∀ m, plainRun flow r m = some ([], ⟨r, m⟩)) (hgap : gapNext r = false) (indent : ℕ) :
    plain flow indent ⟨w ++ r, m⟩ =
      some ⟨w, m.skip w.length, false, ⟨r, m.skip w.length⟩⟩ := by
  simp [plain_eq hne hw hm hr, hgap]

end plain

/-! ### Quoted scalars -/

/-- What stands between double quotes for a text: characters that can be printed and stand for
themselves, and numbers of characters. -/
inductive Quotes : List Char → List Char → Prop where
  | nil : Quotes [] []
  | own {c : Char} {s t : List Char} (printed : 0x20 ≤ c.toNat ∧ c.toNat ≤ 0x7E)
      (unmarked : c ≠ '"' ∧ c ≠ '\\') (rest : Quotes s t) : Quotes (c :: s) (c :: t)
  | escape {c d₀ d₁ d₂ d₃ d₄ d₅ d₆ d₇ : Char} {s t : List Char}
      (number : numbered [d₀, d₁, d₂, d₃, d₄, d₅, d₆, d₇] = some c) (rest : Quotes s t) :
      Quotes (c :: s) ('\\' :: 'U' :: d₀ :: d₁ :: d₂ :: d₃ :: d₄ :: d₅ :: d₆ :: d₇ :: t)

lemma quotes_self {s : List Char} (h : ∀ c ∈ s, Bare c) : Quotes s s := by
  induction s with
  | nil => exact .nil
  | cons c s ih =>
    obtain ⟨hc, hs⟩ := List.forall_mem_cons.mp h
    obtain ⟨-, -, -, -, hquote, hback, hlow, hhigh, -⟩ := hc.spec
    exact .own ⟨hlow, hhigh⟩ ⟨hquote, hback⟩ (ih hs)

section quoted

variable {s t r : List Char}

/-- A printed character is a blank or belongs to a stretch. -/
lemma isGap_eq_of_printed {c : Char} (hc : 0x20 ≤ c.toNat ∧ c.toNat ≤ 0x7E) :
    isGap c = (c == ' ') :=
  forall_ascii (P := fun c => 0x20 ≤ c.toNat ∧ c.toNat ≤ 0x7E → isGap c = (c == ' '))
    (by decide +kernel) (by omega) hc

lemma doubleRun_cons {c : Char} (hc : c ≠ '\\') (r : List Char) (m : Mark) :
    doubleRun (c :: r) m = if c == '"' || isGap c then some ⟨[], false, ⟨c :: r, m⟩⟩
      else (doubleRun r (m.past c)).map (·.cons c) := by
  rw [doubleRun.eq_def]
  split <;> simp_all

/-- A stretch of a quoted scalar goes up to a space or the closing quote. -/
lemma doubleRun_quotes (h : Quotes s t) (m : Mark) : ∃ s₁ t₁ s₂ t₂, s = s₁ ++ s₂ ∧ t = t₁ ++ t₂ ∧
    Quotes s₂ t₂ ∧ (t₂ = [] ∨ t₂.head? = some ' ') ∧
    doubleRun (t ++ '"' :: r) m = some ⟨s₁, false, ⟨t₂ ++ '"' :: r, m.skip t₁.length⟩⟩ := by
  induction h generalizing m with
  | nil => exact ⟨[], [], [], [], rfl, rfl, .nil, .inl rfl, by simp [doubleRun]⟩
  | @own c s t printed unmarked rest ih =>
    by_cases hc : c = ' '
    · subst hc
      exact ⟨[], [], _, _, rfl, rfl, .own printed unmarked rest, .inr rfl,
        by simp [doubleRun, isGap, isBlank]⟩
    · obtain ⟨s₁, t₁, s₂, t₂, rfl, rfl, hq, hstop, hrun⟩ := ih (m.skip 1)
      refine ⟨c :: s₁, c :: t₁, s₂, t₂, rfl, rfl, hq, hstop, ?_⟩
      have hpast : m.past c = m.skip 1 := Mark.past_eq_skip (by omega) m
      rw [List.append_assoc] at hrun
      simp [doubleRun_cons unmarked.2, isGap_eq_of_printed printed, hc, unmarked.1, hpast, hrun,
        Stretch.cons, Nat.add_comm 1]
  | @escape c d₀ d₁ d₂ d₃ d₄ d₅ d₆ d₇ s t number rest ih =>
    obtain ⟨s₁, t₁, s₂, t₂, rfl, rfl, hq, hstop, hrun⟩ := ih (m.skip 10)
    refine ⟨c :: s₁, '\\' :: 'U' :: d₀ :: d₁ :: d₂ :: d₃ :: d₄ :: d₅ :: d₆ :: d₇ :: t₁, s₂, t₂,
      rfl, rfl, hq, hstop, ?_⟩
    simp only [List.cons_append, doubleRun, number, Option.bind_some, hrun]
    simp [Stretch.cons, Nat.add_comm 10]

lemma readGap_cons {c : Char} (hc : isGap c = false) (r : List Char) (m : Mark) (g : Gap) :
    readGap (c :: r) m g = (g, ⟨c :: r, m⟩) := by
  obtain ⟨hblank, hbreak⟩ := Bool.or_eq_false_iff.mp hc
  rw [readGap.eq_def]
  split
  · simp_all [isBreak]
  · simp_all
  · simp_all

/-- A gap in a quoted scalar is the spaces up to the next stretch. -/
lemma readGap_quotes (h : Quotes s t) (m : Mark) (bs : List Char) : ∃ s₁ t₁ s₂ t₂, s = s₁ ++ s₂ ∧
    t = t₁ ++ t₂ ∧ Quotes s₂ t₂ ∧ (t.head? = some ' ' → t₁ ≠ []) ∧
    readGap (t ++ '"' :: r) m ⟨false, bs, [], []⟩ =
      (⟨false, bs ++ s₁, [], []⟩, ⟨t₂ ++ '"' :: r, m.skip t₁.length⟩) := by
  have hstop {c : Char} (hc : isGap c = false) (r : List Char) (m : Mark) (bs : List Char) :
      readGap (c :: r) m ⟨false, bs, [], []⟩ = (⟨false, bs ++ [], [], []⟩, ⟨c :: r, m.skip 0⟩) := by
    rw [readGap_cons hc, List.append_nil, Mark.skip_zero]
  induction h generalizing m bs with
  | nil => exact ⟨[], [], [], [], rfl, rfl, .nil, by simp, hstop (by decide) _ _ _⟩
  | @own c s t printed unmarked rest ih =>
    by_cases hc : c = ' '
    · subst hc
      obtain ⟨s₁, t₁, s₂, t₂, rfl, rfl, hq, -, hgap⟩ := ih (m.skip 1) (bs ++ [' '])
      refine ⟨' ' :: s₁, ' ' :: t₁, s₂, t₂, rfl, rfl, hq, by simp, ?_⟩
      have hpast : m.past ' ' = m.skip 1 := Mark.past_eq_skip (by decide) m
      rw [List.append_assoc] at hgap
      rw [List.cons_append, readGap]
      · simp [isBlank, Gap.blank, hpast, hgap, Nat.add_comm 1]
      · simp
    · have hgap : isGap c = false := by simpa [isGap_eq_of_printed printed] using hc
      exact ⟨[], [], _, _, rfl, rfl, .own printed unmarked rest, by simp [hc], hstop hgap _ _ _⟩
  | escape number rest =>
    exact ⟨[], [], _, _, rfl, rfl, .escape number rest, by simp, hstop (by decide) _ _ _⟩

lemma quotedRest_quotes {fuel : ℕ} (h : Quotes s t) (ht : t.length < fuel) {m : Mark}
    (hm : m.col ≠ 0) :
    quotedRest '"' fuel ⟨t ++ '"' :: r, m⟩ = some (s, ⟨r, m.skip (t.length + 1)⟩) := by
  induction fuel generalizing s t m with
  | zero => omega
  | succ fuel ih =>
    obtain ⟨s₁, t₁, s₂, t₂, rfl, rfl, hq, hstop, hrun⟩ := doubleRun_quotes (r := r) h m
    have hne : t₁ ++ t₂ ++ '"' :: r ≠ [] := by simp
    simp only [quotedRest, hm, false_and, if_false, hne, if_true, hrun, Option.bind_eq_bind,
      Option.bind_some]
    rcases hstop with rfl | hspace
    · cases hq
      simp [Cursor.head, Cursor.drop]
    · obtain ⟨s₃, t₃, s₄, t₄, rfl, rfl, hq', hpos, hgap⟩ :=
        readGap_quotes (r := r) hq (m.skip t₁.length) []
      have hlen := List.length_pos_iff.mpr (hpos hspace)
      have hhead : Cursor.head ⟨t₃ ++ t₄ ++ '"' :: r, m.skip t₁.length⟩ ≠ some '"' := by
        rw [Cursor.head, List.head?_append, hspace]
        simp
      have hrest := ih hq' (by simp at ht; omega) (m := (m.skip t₁.length).skip t₃.length)
        (by simp [hm])
      simp only [hhead, if_false, Bool.false_eq_true, Gap.none, hgap, hrest, Option.bind_some]
      simp [Gap.text, Nat.add_assoc]

/-- A text between double quotes is read back. -/
lemma quoted_quotes (h : Quotes s t) (m : Mark) :
    quoted '"' ⟨'"' :: (t ++ '"' :: r), m⟩ = some (s, ⟨r, m.skip (t.length + 2)⟩) := by
  rw [quoted, Cursor.drop, List.drop_succ_cons, List.drop_zero,
    quotedRest_quotes h (by simp; omega) (by simp), Mark.skip_skip, Nat.add_left_comm]

end quoted

end ExampleSuite.Yaml
