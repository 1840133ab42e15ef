import ExampleSuite.Proofs.Nodes
import ExampleSuite.Proofs.Scanning

/-!
The scan of a block mapping of lists, line by line.

Between two lines there may be empty lines and comments. What remains of a text at such a place is
known by the lines that are still to come, whatever stands between them, and each line is scanned
from one such place to the next.
-/

namespace ExampleSuite.Yaml.Scan

open RuleFile (Field)

/-! ### What remains -/

/-- A line that says something, behind its indentation. -/
structure Line where
  indent : ℕ
  body : List Char

/-- A line is at its end. -/
def Ends (r : List Char) : Prop := r = [] ∨ r.head? = some '\n'

/-- A text that is read where a line begins, or behind blanks at a column, with lines to come. -/
inductive Remains : List Line → List Char → ℕ → Prop where
  | fin (c : ℕ) : Remains [] [] c
  | newline {ls : List Line} {r : List Char} {c : ℕ} (rest : Remains ls r 0) :
      Remains ls ('\n' :: r) c
  | space {ls : List Line} {r : List Char} {c : ℕ} (rest : Remains ls r (c + 1)) :
      Remains ls (' ' :: r) c
  | comment {ls : List Line} {t r : List Char} {c : ℕ} (unbroken : ∀ x ∈ t, isBreak x = false)
      (ends : Ends r) (rest : ∀ c', Remains ls r c') : Remains ls ('#' :: (t ++ r)) c
  | line {ls : List Line} {x : Char} {b r : List Char} {c : ℕ} (inked : Inked x) (ends : Ends r)
      (rest : ∀ c', Remains ls r c') : Remains (⟨c, x :: b⟩ :: ls) (x :: b ++ r) c

/-- The lines to come behind the present place, where a key may begin on the first of them. -/
structure Due (s : Scan) (ls : List Line) : Prop where
  remains : Remains ls s.at_.rest s.at_.mark.col
  allowed : s.allowed = true ∨ Ends s.at_.rest

variable {s t : Scan} {ks : List TokenKind} {is : List ℤ} {ls : List Line} {r : List Char}
  {fuel : ℕ}

/-! ### Blank lines -/

/-- Past the blanks and the comment on a line. -/
def passed (s : Scan) : Cursor :=
  let k := s.at_
  let k := if k.mark.col = 0 ∧ k.head = some '\uFEFF' then
    ⟨k.rest.drop 1, k.mark.past '\uFEFF'⟩ else k
  let k := k.skip fun c => c == ' ' || ((s.flowing || !s.allowed) && c == '\t')
  if k.head = some '#' then k.skip (!isBreak ·) else k

lemma toNext_succ : toNext (fuel + 1) s = match s.passed.lineBreak? with
    | some (_, k) => toNext fuel { s with at_ := k, allowed := s.allowed || !s.flowing }
    | none => { s with at_ := s.passed } := rfl

lemma toNext_of_passed {k : Cursor} (h : passed { s with at_ := k } = s.passed) :
    toNext (fuel + 1) s = toNext (fuel + 1) { s with at_ := k } := by
  rw [toNext_succ, toNext_succ, h]
  rfl

lemma skipWhile_append {p : Char → Bool} {t : List Char} (ht : ∀ x ∈ t, p x)
    (hr : ∀ x ∈ r.head?, p x = false) (m : Mark) : ∃ m', skipWhile p (t ++ r) m = ⟨r, m'⟩ := by
  induction t generalizing m with
  | nil =>
    cases r with
    | nil => exact ⟨m, rfl⟩
    | cons x r => exact ⟨m, by simp [skipWhile, hr x rfl]⟩
  | cons x t ih =>
    obtain ⟨hx, ht⟩ := List.forall_mem_cons.mp ht
    obtain ⟨m', hm⟩ := ih ht (m.past x)
    exact ⟨m', by simp [skipWhile, hx, hm]⟩

lemma skipWhile_of_head {p : Char → Bool} (h : ∀ x ∈ r.head?, p x = false) (m : Mark) :
    skipWhile p r m = ⟨r, m⟩ := by
  cases r with
  | nil => rfl
  | cons x r => simp [skipWhile, h x rfl]

lemma passed_space (h : s.at_.rest = ' ' :: r) :
    passed { s with at_ := ⟨r, s.at_.mark.skip 1⟩ } = s.passed := by
  have hpast : s.at_.mark.past ' ' = s.at_.mark.skip 1 := Mark.past_eq_skip (by decide) _
  have hhead : s.at_.head ≠ some '\uFEFF' := by simp [Cursor.head, h]
  simp only [passed, hhead, and_false, if_false, Mark.skip_col, Nat.add_one_ne_zero, false_and,
    Cursor.skip, h, skipWhile, hpast, beq_self_eq_true, Bool.true_or, if_true]
  rfl

/-- Where neither a blank nor a comment comes next, nothing is passed. -/
lemma passed_of_head (h : ∀ x ∈ s.at_.rest.head?, isBlank x = false ∧ x ≠ '#' ∧ x ≠ '\uFEFF') :
    s.passed = s.at_ := by
  have hne {c : Char} (hc : ∀ x ∈ s.at_.rest.head?, x ≠ c) : s.at_.head ≠ some c :=
    fun he => hc c he rfl
  have hskip : s.at_.skip (fun c => c == ' ' || ((s.flowing || !s.allowed) && c == '\t')) =
      s.at_ :=
    skipWhile_of_head (fun x hx => by
      obtain ⟨hspace, htab⟩ := Bool.or_eq_false_iff.mp (h x hx).1
      simp [hspace, htab]) _
  simp only [passed, hne fun x hx => (h x hx).2.2, and_false, if_false, hskip,
    hne fun x hx => (h x hx).2.1]

lemma Ends.head (hr : Ends r) : ∀ x ∈ r.head?, x = '\n' := by
  rcases hr with rfl | hr
  · nofun
  · rw [hr]
    rintro x ⟨⟩
    rfl

lemma gapNext_of_head {c : Char} (h : r.head? = some c) (hc : isGap c) : gapNext r := by
  cases r with
  | nil => simp at h
  | cons x r =>
    obtain rfl : x = c := by simpa using h
    exact hc

lemma Ends.gapNext (hr : Ends r) : gapNext r := by
  rcases hr with rfl | hr
  · rfl
  · exact gapNext_of_head hr (by decide)

lemma Ends.passed (h : Ends s.at_.rest) : s.passed = s.at_ :=
  passed_of_head fun x hx => h.head x hx ▸ by decide

lemma passed_comment {t : List Char} (ht : ∀ x ∈ t, isBreak x = false) (hr : Ends r)
    (h : s.at_.rest = '#' :: (t ++ r)) : ∃ m, s.passed = ⟨r, m⟩ := by
  obtain ⟨m, hm⟩ := skipWhile_append (p := (!isBreak ·)) (t := '#' :: t) (r := r)
    (List.forall_mem_cons.mpr ⟨rfl, by simpa using ht⟩)
    (fun x hx => by rw [hr.head x hx]; rfl) s.at_.mark
  have hhead : s.at_.head = some '#' := by simp [Cursor.head, h]
  have hskip : s.at_.skip (fun c => c == ' ' || ((s.flowing || !s.allowed) && c == '\t')) =
      s.at_ :=
    skipWhile_of_head (by simp [h]) _
  have hcomment : s.at_.skip (!isBreak ·) = ⟨r, m⟩ := by
    rw [Cursor.skip, h]
    exact hm
  exact ⟨m, by simp [passed, hhead, hskip, hcomment]⟩

lemma lineBreak?_newline (h : s.at_.rest = '\n' :: r) :
    s.at_.lineBreak? = some ('\n', ⟨r, s.at_.mark.newline 1⟩) := by
  simp [Cursor.lineBreak?, h, isBreak, breakText]
  rfl

/-- Passing what is blank leads to the first of the lines to come. -/
def Arrives (s : Scan) : List Line → Prop
  | [] => s.at_.rest = []
  | l :: ls => ∃ r, s.at_.rest = l.body ++ r ∧ s.at_.mark.col = l.indent ∧ s.allowed = true ∧
      Ends r ∧ ∀ c, Remains ls r c

lemma Remains.arrives {c : ℕ} (h : Remains ls r c) (hflow : s.flow = 0) (hrest : s.at_.rest = r)
    (hcol : s.at_.mark.col = c) (ha : s.allowed = true ∨ Ends r) (hf : r.length < fuel) :
    (toNext fuel s).Arrives ls ∧ (toNext fuel s).at_.rest.length ≤ r.length := by
  induction h generalizing s fuel with
  | fin c =>
    obtain ⟨fuel, rfl⟩ := Nat.exists_eq_succ_of_ne_zero (Nat.ne_zero_of_lt hf)
    have hpassed : s.passed = s.at_ := Ends.passed (.inl hrest)
    have hbreak : s.at_.lineBreak? = none := by simp [Cursor.lineBreak?, hrest]
    rw [toNext_succ, hpassed, hbreak]
    exact ⟨hrest, by simp [hrest]⟩
  | @newline ls r c rest ih =>
    obtain ⟨fuel, rfl⟩ := Nat.exists_eq_succ_of_ne_zero (Nat.ne_zero_of_lt hf)
    have hpassed : s.passed = s.at_ := Ends.passed (.inr (by rw [hrest]; rfl))
    rw [toNext_succ, hpassed, lineBreak?_newline hrest]
    have hlt : r.length < fuel := by simpa using hf
    have hallowed : (s.allowed || !s.flowing) = true := by simp [Scan.flowing, hflow]
    refine And.imp_right Nat.le_succ_of_le ?_
    exact ih hflow rfl rfl (.inl hallowed) hlt
  | @space ls r c rest ih =>
    obtain ⟨fuel, rfl⟩ := Nat.exists_eq_succ_of_ne_zero (Nat.ne_zero_of_lt hf)
    have hallowed : s.allowed = true := ha.resolve_right (by simp [Ends])
    have hlt : r.length < fuel + 1 := Nat.lt_of_succ_lt hf
    rw [toNext_of_passed (passed_space hrest)]
    refine And.imp_right Nat.le_succ_of_le ?_
    exact ih hflow rfl (congrArg (· + 1) hcol) (.inl hallowed) hlt
  | @comment ls t r c unbroken ends rest ih =>
    obtain ⟨fuel, rfl⟩ := Nat.exists_eq_succ_of_ne_zero (Nat.ne_zero_of_lt hf)
    have hallowed : s.allowed = true := ha.resolve_right (by simp [Ends])
    obtain ⟨m, hm⟩ := passed_comment unbroken ends hrest
    have hpassed : passed { s with at_ := ⟨r, m⟩ } = s.passed := by
      rw [hm]
      exact Ends.passed ends
    rw [toNext_of_passed hpassed]
    have hle : r.length ≤ ('#' :: (t ++ r)).length := by simp; omega
    refine And.imp_right (Nat.le_trans · hle) ?_
    exact ih m.col hflow rfl rfl (.inl hallowed) (Nat.lt_of_le_of_lt hle hf)
  | @line ls x b r c inked ends rest ih =>
    obtain ⟨fuel, rfl⟩ := Nat.exists_eq_succ_of_ne_zero (Nat.ne_zero_of_lt hf)
    have hallowed : s.allowed = true := ha.resolve_right (by simp [Ends, inked.ne_newline])
    obtain ⟨hgap, hhash, hbom⟩ := inked
    obtain ⟨hblank, hbreak⟩ := Bool.or_eq_false_iff.mp hgap
    have hpassed : s.passed = s.at_ := passed_of_head (by simp [hrest, hblank, hhash, hbom])
    have hnone : s.at_.lineBreak? = none := by
      rw [← lineBreak?_of_inked hbreak (b ++ r) s.at_.mark, ← List.cons_append, ← hrest]
    rw [toNext_succ, hpassed, hnone]
    exact ⟨⟨r, hrest, hcol, hallowed, ends, rest⟩, by simp [hrest]⟩

lemma Due.arrives (h : s.Due ls) (hs : s.Has ks 0 is) :
    s.ahead.Arrives ls ∧ s.ahead.at_.rest.length ≤ s.at_.rest.length :=
  h.remains.arrives hs.flow rfl rfl h.allowed (Nat.lt_succ_self _)

/-! ### Plain scalars at the end of a line -/

/-- The gap behind a plain scalar goes up to a comment, to the end, or to the next line, which is
less deep. -/
lemma Remains.plainGap {c indent : ℕ} (h : Remains ls r c) {m : Mark} (hm : m.col = c) {g : Gap}
    (hg : g.broken = true ∨ r.head? = some '\n') (hls : ∀ l ∈ ls.head?, l.indent < indent) :
    ∃ g' k, plainGap indent r m g = some (g', k) ∧ g'.broken = true ∧
      Remains ls k.rest k.mark.col ∧ k.rest.length ≤ r.length ∧
      (k.rest = [] ∨ k.head = some '#' ∨ k.mark.col < indent) := by
  have hstop {x : Char} (hx : isGap x = false) (b : List Char) (m : Mark) (g : Gap) :
      Yaml.plainGap indent (x :: b) m g = some (g, ⟨x :: b, m⟩) := by
    obtain ⟨hblank, hbreak⟩ := Bool.or_eq_false_iff.mp hx
    rw [plainGap.eq_def]
    split
    · simp_all [isBreak]
    · simp_all
    · simp_all
  induction h generalizing m g with
  | fin c =>
    exact ⟨g, ⟨[], m⟩, by simp [Yaml.plainGap], by simpa using hg, .fin _, Nat.le_refl _, .inl rfl⟩
  | @newline ls r c rest ih =>
    obtain ⟨g', k, hk, hbroken, hrem, hlen, hend⟩ := ih (m := m.newline 1) (g := g.break_ '\n') rfl
      (.inl (by simp only [Gap.break_]; split_ifs with hb <;> simp [hb])) hls
    refine ⟨g', k, ?_, hbroken, hrem, Nat.le_succ_of_le hlen, hend⟩
    rw [← hk, Yaml.plainGap]
    · simp [isBlank, isBreak, breakText]
      rfl
    · simp
  | @space ls r c rest ih =>
    have hbroken : g.broken = true := hg.resolve_right (by simp)
    have hpast : m.past ' ' = m.skip 1 := Mark.past_eq_skip (by decide) m
    obtain ⟨g', k, hk, hbroken', hrem, hlen, hend⟩ := ih (m := m.skip 1) (g := g) (by simp [hm])
      (.inl hbroken) hls
    refine ⟨g', k, ?_, hbroken', hrem, Nat.le_succ_of_le hlen, hend⟩
    rw [← hk, Yaml.plainGap]
    · simp [isBlank, Gap.blank, hbroken, hpast]
    · simp
  | @comment ls t r c unbroken ends rest ih =>
    exact ⟨g, _, hstop (by decide) _ m g, by simpa using hg, .comment unbroken ends rest,
      Nat.le_refl _, .inr (.inl rfl)⟩
  | @line ls x b r c inked ends rest ih =>
    have hbroken : g.broken = true := hg.resolve_right (by simp [inked.ne_newline])
    refine ⟨g, _, hstop inked.1 _ m g, hbroken, ?_, Nat.le_refl _, .inr (.inr ?_)⟩
    · rw [hm]
      exact .line inked ends rest
    · rw [hm]
      exact hls _ rfl

lemma plainRest_of_stop {flow : Bool} {indent : ℕ} {k : Cursor} {g : Gap} {stop : Mark}
    (h : k.rest = [] ∨ k.head = some '#') :
    plainRest flow indent (fuel + 1) k g stop = some ⟨[], stop, g.broken, k⟩ := by
  obtain ⟨rest, m⟩ := k
  rcases h with h | h
  · obtain rfl : rest = [] := h
    simp [plainRest, separatorNext, Cursor.head, plainRun]
  · simp [plainRest, h]

/-- A plain scalar that ends its line is read together with what is blank behind it. -/
lemma plain_of_ends {w : List Char} {m : Mark} (hne : w ≠ []) (hw : ∀ c ∈ w, Bare c)
    (hm : m.col ≠ 0) (hr : Ends r) (h : ∀ c, Remains ls r c) (indent : ℕ)
    (hls : ∀ l ∈ ls.head?, l.indent < indent) :
    ∃ p, plain false indent ⟨w ++ r, m⟩ = some p ∧ p.text = w ∧
      Remains ls p.rest.rest p.rest.mark.col ∧ (p.left = true ∨ Ends p.rest.rest) ∧
      p.rest.rest.length ≤ r.length := by
  have hrun (m : Mark) : plainRun false r m = some ([], ⟨r, m⟩) := by
    cases r with
    | nil => rfl
    | cons x r =>
      obtain rfl := hr.head x rfl
      simp [plainRun, isGap, isBreak]
  rw [plain_eq hne hw (.inl hm) hrun]
  rcases hr with rfl | hr
  · exact ⟨_, rfl, rfl, h _, .inr (.inl rfl), Nat.le_refl _⟩
  · obtain ⟨g, k, hgap, hbroken, hrem, hlen, hend⟩ :=
      (h _).plainGap (m := m.skip w.length) rfl (g := .none) (.inr hr) hls
    obtain ⟨r, rfl⟩ : ∃ r', r = '\n' :: r' := by
      cases r with
      | nil => simp at hr
      | cons x r => exact ⟨r, by simpa using hr⟩
    have hmore : ¬('\n' :: r = [] ∨ (!gapNext ('\n' :: r)) = true) := by
      simp [gapNext, isGap, isBreak]
    simp only [hmore, if_false, hgap, Option.bind_some]
    split_ifs with hcol
    · exact ⟨_, rfl, rfl, hrem, .inl hbroken, hlen⟩
    · have hstop : k.rest = [] ∨ k.head = some '#' := by
        rcases hend with h | h | h
        · exact .inl h
        · exact .inr h
        · exact absurd ⟨by simp, h⟩ hcol
      rw [List.length_append, List.length_cons, ← Nat.add_assoc, plainRest_of_stop hstop]
      exact ⟨_, rfl, by simp, hrem, .inl hbroken, hlen⟩

/-! ### Lines -/

/-- A text that is read as it stands wherever a scalar may be. -/
structure Named (w : List Char) : Prop where
  ne_nil : w ≠ []
  head : w.head? ≠ some '-'
  bare : ∀ c ∈ w, Bare c

instance (w : List Char) : Decidable (Named w) :=
  have := List.decidableBAll Bare w
  decidable_of_iff (w ≠ [] ∧ w.head? ≠ some '-' ∧ ∀ c ∈ w, Bare c)
    ⟨fun ⟨h, h', h''⟩ => ⟨h, h', h''⟩, fun ⟨h, h', h''⟩ => ⟨h, h', h''⟩⟩

/-- A text as it stands or between double quotes. -/
def written (plain : Bool) (w : List Char) : List Char :=
  if plain then w else '"' :: (w ++ ['"'])

section lines

variable {w : List Char} {plain : Bool}

lemma Due.of_ends (hends : Ends r) (hrem : ∀ c, Remains ls r c) (hrest : s.at_.rest = r) :
    s.Due ls :=
  ⟨hrest ▸ hrem _, .inr (hrest ▸ hends)⟩

lemma Named.inked (h : Named w) (plain : Bool) : ∃ x b, written plain w = x :: b ∧ Inked x := by
  cases plain with
  | false => exact ⟨_, _, rfl, by decide⟩
  | true =>
    obtain ⟨x, b, rfl⟩ := List.exists_cons_of_ne_nil h.ne_nil
    have hx := h.bare x List.mem_cons_self
    have hinked : Bare x → Inked x := forall_ascii (P := fun x => Bare x → Inked x)
      (by decide +kernel) hx.toNat_lt
    exact ⟨x, b, rfl, hinked hx⟩

lemma Has.indent {i : ℤ} {flow : ℕ} (h : s.Has ks flow (i :: is)) : s.indent = i :=
  (List.cons.inj h.indents).1

lemma Has.here_of_lt {i : ℤ} {flow : ℕ} (h : s.Has ks flow (i :: is)) (hcol : i < s.col) :
    s.here.required = false := by
  simp [here, h.indent, hcol.ne]

/-- A plain scalar is read up to the next line, if that is not deeper than the block. -/
lemma Has.plainItem {i : ℤ} (h : s.Has ks 0 (i :: is)) (hcol : i < s.col) (hname : Named w)
    (hends : Ends r) (hrem : ∀ c, Remains ls r c) (hls : ∀ l ∈ ls.head?, (l.indent : ℤ) ≤ i)
    (hrest : s.at_.rest = w ++ r) (hm : s.at_.mark.col ≠ 0) :
    ∃ t, s.read = some t ∧ t.Due ls ∧ t.at_.rest.length ≤ r.length ∧
      t.Has (ks ++ [TokenKind.scalar true w]) 0 (i :: is) := by
  obtain ⟨ps, hremember, hps⟩ := h.remember fun _ => h.here_of_lt hcol
  have hat : s.at_ = ⟨w ++ r, s.at_.mark⟩ := by rw [← hrest]
  have hread : s.read = s.readPlain := by
    obtain ⟨x, b, rfl⟩ := List.exists_cons_of_ne_nil hname.ne_nil
    obtain ⟨-, hg, -, -, -, -, -, -, hi⟩ := (hname.bare x List.mem_cons_self).spec
    exact read_eq_readPlain (hi (by simpa using hname.head)) hg hrest (.inl hm)
  obtain ⟨p, hplain, htext, hprem, hleft, hlen⟩ :=
    plain_of_ends hname.ne_nil hname.bare hm hends hrem (i + 1).toNat fun l hl => by
      have := hls l hl
      omega
  have hflow : Scan.flowing { s with places := ps } = false := by simp [Scan.flowing, h.flow]
  have hplain' :
      plain (Scan.flowing { s with places := ps }) (s.indent + 1).toNat s.at_ = some p := by
    rw [hflow, h.indent, hat]
    exact hplain
  have hp := ((h.places hps).move p.rest p.left).push ⟨.scalar true p.text, s.at_.mark, p.stop⟩
  rw [htext] at hp
  refine ⟨_, ?_, ⟨hprem, hleft⟩, hlen, hp⟩
  rw [hread, readPlain, hremember]
  simp only [Option.bind_eq_bind, Option.bind_some, hplain', htext]
  rfl

/-- The scalar of an entry, up to the next line. -/
lemma Has.entryItem {i : ℤ} (h : s.Has ks 0 (i :: is)) (hcol : i < s.col) (hname : Named w)
    (hends : Ends r) (hrem : ∀ c, Remains ls r c) (hls : ∀ l ∈ ls.head?, (l.indent : ℤ) ≤ i)
    (hrest : s.at_.rest = ' ' :: (written plain w ++ r)) :
    ∃ t, Leads s t ∧ t.Due ls ∧ t.Has (ks ++ [TokenKind.scalar plain w]) 0 (i :: is) := by
  obtain ⟨x, b, hw, hx⟩ := hname.inked plain
  obtain ⟨t, hstep, hat, -, ht⟩ := h.step_of_inked (n := 1) (c := x) (r := b ++ r)
    (.inr (h.indent ▸ hcol.le)) hx (by rw [hrest, hw]; rfl)
  have htrest : t.at_.rest = written plain w ++ r := by rw [hat, hw]; rfl
  have htm : t.at_.mark.col ≠ 0 := by simp [hat]
  have htcol : i < t.col := by
    simp only [col, hat, Mark.skip_col] at hcol ⊢
    omega
  cases plain with
  | false =>
    obtain ⟨u, hu, huat, -, hhas⟩ := ht.scalar (fun _ => ht.here_of_lt htcol)
      (spells_quoted (quotes_self hname.bare) t.flowing r) htrest (.inl htm)
    refine ⟨u, .step h.going (hstep.trans hu) ?_ (.refl u), .of_ends hends hrem (by rw [huat]),
      hhas⟩
    simp only [huat, hrest, List.length_append, List.length_cons]
    omega
  | true =>
    obtain ⟨u, hu, hdue, hlen, hhas⟩ := ht.plainItem htcol hname hends hrem hls htrest htm
    refine ⟨u, .step h.going (hstep.trans hu) ?_ (.refl u), hdue, hhas⟩
    simp [hrest]
    omega

/-- A dash and a text, behind some spaces. -/
def entryLine (k : ℕ) (plain : Bool) (x : String) : Line :=
  ⟨k, '-' :: ' ' :: written plain x.toList⟩

/-- An entry opens a sequence where it is deeper than the block that it is in. -/
lemma Has.readEntry {i : ℤ} {k : ℕ} {x : String} (h : s.Has ks 0 (i :: is))
    (due : s.Due (entryLine k plain x :: ls)) (hik : i ≤ k) (hname : Named x.toList)
    (hls : ∀ l ∈ ls.head?, l.indent ≤ k) :
    ∃ t, Leads s t ∧ t.Due ls ∧
      if i < k then
        t.Has (ks ++ [TokenKind.blockSeqStart, .blockEntry, .scalar plain x.toList]) 0
          (k :: i :: is)
      else t.Has (ks ++ [TokenKind.blockEntry, .scalar plain x.toList]) 0 (i :: is) := by
  obtain ⟨⟨r, hrest, hcol, hallowed, hends, hrem⟩, hlen⟩ := due.arrives h
  have hacol : s.ahead.col = k := congrArg Nat.cast hcol
  obtain ⟨t, hstep, hat, hta, ht⟩ := h.step_of_le (.inr (by rw [h.indent, hacol]; exact hik))
  have htrest : t.at_.rest = '-' :: ' ' :: (written plain x.toList ++ r) := by
    rw [hat, hrest]
    rfl
  have htcol : t.col = k := by rw [col, hat, ← hacol]; rfl
  have hread : t.read = t.readBlockEntry := by
    simp [Scan.read, htrest, separatorNext, gapNext, isGap, isBlank]
  obtain ⟨u, hu, huat, hua, hhas⟩ := ht.readBlockEntry (hta.trans hallowed)
  have hurest : u.at_.rest = ' ' :: (written plain x.toList ++ r) := by
    rw [huat, Cursor.drop, htrest]
    rfl
  have hucol : u.col = k + 1 := by
    simp only [col, huat, Cursor.drop, Mark.skip_col] at htcol ⊢
    omega
  have hlead : Leads s u := by
    refine .step h.going (by rw [hstep, hread, hu]) ?_ (.refl u)
    rw [hrest] at hlen
    simp [hurest, entryLine] at hlen ⊢
    omega
  rw [ht.indent, htcol] at hhas
  split_ifs at hhas ⊢ with hdeep
  · obtain ⟨v, hv, hdue, hhas'⟩ := hhas.entryItem (by omega) hname hends hrem
      (fun l hl => Int.ofNat_le.mpr (hls l hl)) hurest
    exact ⟨v, hlead.trans hv, hdue, by simpa using hhas'⟩
  · obtain rfl : i = k := by omega
    obtain ⟨v, hv, hdue, hhas'⟩ := hhas.entryItem (by omega) hname hends hrem
      (fun l hl => Int.ofNat_le.mpr (hls l hl)) hurest
    exact ⟨v, hlead.trans hv, hdue, by simpa using hhas'⟩

/-- In front of further entries, and behind the last, nothing deeper comes. -/
lemma indent_le_of_entries {k : ℕ} (ss : List String) (hls : ∀ l ∈ ls.head?, l.indent ≤ k) :
    ∀ l ∈ (ss.map (entryLine k plain) ++ ls).head?, l.indent ≤ k := by
  cases ss with
  | nil => exact hls
  | cons y ss =>
    rintro l ⟨⟩
    exact Nat.le_refl k

/-- The entries of a sequence that is open. -/
lemma Has.readEntries {k : ℕ} {ss : List String} (h : s.Has ks 0 ((k : ℤ) :: is))
    (due : s.Due (ss.map (entryLine k plain) ++ ls)) (hnames : ∀ x ∈ ss, Named x.toList)
    (hls : ∀ l ∈ ls.head?, l.indent ≤ k) :
    ∃ t, Leads s t ∧ t.Due ls ∧ t.Has (ks ++ Parse.entryKinds plain ss) 0 (k :: is) := by
  induction ss generalizing s ks with
  | nil => exact ⟨s, .refl s, due, by simpa [Parse.entryKinds] using h⟩
  | cons x ss ih =>
    obtain ⟨hx, hss⟩ := List.forall_mem_cons.mp hnames
    obtain ⟨t, hlead, hdue, ht⟩ := h.readEntry due (Int.le_refl _) hx (indent_le_of_entries ss hls)
    rw [if_neg (Int.lt_irrefl _)] at ht
    obtain ⟨u, hlead', hdue', hu⟩ := ih ht hdue hss
    exact ⟨u, hlead.trans hlead', hdue', by simpa [Parse.entryKinds] using hu⟩

/-- The line of a key, with what else is on it. -/
def keyLine (f : Field) (more : List Char) : Line := ⟨0, f.name.toList ++ ':' :: more⟩

lemma separatorNext_key (f : Field) (r : List Char) :
    separatorNext (f.name.toList ++ ':' :: r) = false := by
  cases f <;> rfl

lemma named_key (f : Field) : Named f.name.toList := by cases f <;> decide

/-- Behind the colon of a key there is a blank, or the line ends. -/
lemma gapNext_more {more : List Char} (hmore : more = [] ∨ more.head? = some ' ') (hr : Ends r) :
    gapNext (more ++ r) := by
  rcases hmore with rfl | hmore
  · exact hr.gapNext
  · exact gapNext_of_head (c := ' ') (by rw [List.head?_append, hmore]; rfl) (by decide)

lemma spells_key (f : Field) (hgap : gapNext r) :
    Spells false f.name.toList true f.name.toList (':' :: r) := by
  refine spells_plain (named_key f).ne_nil (named_key f).head (named_key f).bare (fun m => ?_) rfl
  simp [plainRun, hgap, isGap, isBlank, isBreak]

/-- A key closes the blocks that are deeper, and opens the mapping where it is the first. -/
lemma Has.readKey {f : Field} {more : List Char} {deep js : List ℤ}
    (h : s.Has ks 0 (deep ++ js ++ [-1])) (hdeep : ∀ j ∈ deep, 0 < j) (hjs : js = [] ∨ js = [0])
    (due : s.Due (keyLine f more :: ls)) (hmore : more = [] ∨ more.head? = some ' ') :
    ∃ t r, Leads s t ∧ t.at_.rest = more ++ r ∧ t.allowed = false ∧ Ends r ∧
      (∀ c, Remains ls r c) ∧ t.Has (ks ++ List.replicate deep.length TokenKind.blockEnd ++
        (if js = [] then [TokenKind.blockMapStart] else []) ++
          [TokenKind.key, .scalar true f.name.toList, .value]) 0 [0, -1] := by
  obtain ⟨⟨r, hrest, hcol, hallowed, hends, hrem⟩, hlen⟩ := due.arrives h
  have hacol : s.ahead.col = 0 := congrArg Nat.cast hcol
  obtain ⟨t, hstep, hat, hta, ht⟩ := h.step_of_block
  have hpos : ∀ j ∈ deep, decide (0 < j) = true := fun j hj => decide_eq_true (hdeep j hj)
  have htake : (deep ++ js).takeWhile (0 < ·) = deep := by
    rw [List.takeWhile_append_of_pos hpos]
    rcases hjs with rfl | rfl <;> simp
  have hdrop : (deep ++ js).dropWhile (0 < ·) = js := by
    rw [List.dropWhile_append_of_pos hpos]
    rcases hjs with rfl | rfl <;> simp
  rw [hacol, htake, hdrop] at ht
  have htrest : t.at_.rest = f.name.toList ++ ':' :: (more ++ r) := by
    rw [hat, hrest]
    simp [keyLine]
  have htcol : t.col = 0 := by rw [col, hat]; exact hacol
  have hgap : gapNext (more ++ r) := gapNext_more hmore hends
  have hspells : Spells t.flowing f.name.toList true f.name.toList (':' :: (more ++ r)) := by
    rw [show t.flowing = false by rw [ht.flowing]; rfl]
    exact spells_key f hgap
  have hindent : t.indent = if js = [] then -1 else 0 := by
    rcases hjs with rfl | rfl
    · exact ht.indent
    · exact ht.indent
  have hle : t.indent ≤ t.col := by
    rw [hindent, htcol]
    split_ifs <;> decide
  obtain ⟨u, v, hu, hgoing, hurest, hv, hvat, hva, hhas⟩ := ht.key (hta.trans hallowed) hspells
    htrest (.inr hgap) (by cases f <;> decide) (.inr (separatorNext_key f _)) (.inr hle)
  refine ⟨v, r, .step h.going (hstep.trans hu) ?_ (.step hgoing hv ?_ (.refl v)), by rw [hvat], hva,
    hends, hrem, ?_⟩
  · rw [hrest] at hlen
    have := List.length_pos_iff.mpr (named_key f).ne_nil
    simp [hurest, keyLine] at hlen ⊢
    omega
  · simp [hurest, hvat]
  · rw [hindent, htcol] at hhas
    rcases hjs with rfl | rfl
    · simpa using hhas
    · simpa using hhas

/-! ### Sections -/

/-- How a list is written: as entries at a column, or in brackets. -/
inductive Form where
  | block (column : ℕ)
  | flow

/-- The lines of a key and its list. -/
def sectionLines (form : Form) (plain : Bool) (f : Field) (ss : List String) : List Line :=
  match form with
  | .block k => keyLine f [] :: ss.map (entryLine k plain)
  | .flow => [keyLine f (' ' :: '[' ::
      (List.intercalate [',', ' '] (ss.map fun s => written plain s.toList) ++ [']']))]

lemma lists_written (h : Named w) (plain : Bool) : Lists plain w (written plain w) where
  inked := h.inked plain
  spells r hr := by
    cases plain with
    | false => exact spells_quoted (quotes_self h.bare) true r
    | true =>
      obtain ⟨x, r, rfl, hx⟩ : ∃ x r', r = x :: r' ∧ isFlowMark x ∧ isGap x = false := by
        rcases hr with hr | hr
        · exact ⟨',', r.tail, List.eq_cons_of_mem_head? hr, by decide⟩
        · exact ⟨']', r.tail, List.eq_cons_of_mem_head? hr, by decide⟩
      have hcolon : x ≠ ':' := by
        rintro rfl
        exact absurd hx.1 (by decide)
      exact spells_plain h.ne_nil h.head h.bare (fun m => by simp [plainRun, hx, hcolon]) hx.2

/-- The entries under a key. They open a sequence where they are deeper than it. -/
lemma Has.readBlock {k : ℕ} {ss : List String} (h : s.Has ks 0 [0, -1])
    (due : s.Due (ss.map (entryLine k plain) ++ ls)) (hnames : ∀ x ∈ ss, Named x.toList)
    (hls : ∀ l ∈ ls.head?, l.indent = 0) :
    ∃ t deep vs, Leads s t ∧ t.Due ls ∧ (∀ j ∈ deep, 0 < j) ∧
      Parse.Written (vs ++ List.replicate deep.length TokenKind.blockEnd) ss ∧
      t.Has (ks ++ vs) 0 (deep ++ [0] ++ [-1]) := by
  have hls' : ∀ l ∈ ls.head?, l.indent ≤ k := fun l hl => hls l hl ▸ Nat.zero_le k
  cases ss with
  | nil => exact ⟨s, [], [], .refl s, due, List.forall_mem_nil _, .blank, by simpa using h⟩
  | cons x ss =>
    obtain ⟨hx, hss⟩ := List.forall_mem_cons.mp hnames
    obtain ⟨t, hlead, hdue, ht⟩ :=
      h.readEntry due (Int.natCast_nonneg k) hx (indent_le_of_entries ss hls')
    by_cases hk : (0 : ℤ) < k
    · rw [if_pos hk] at ht
      obtain ⟨u, hlead', hdue', hu⟩ := ht.readEntries hdue hss hls'
      refine ⟨u, [(k : ℤ)], .blockSeqStart :: Parse.entryKinds plain (x :: ss),
        hlead.trans hlead', hdue', by simpa using hk, .block plain (x :: ss), ?_⟩
      simpa [Parse.entryKinds] using hu
    · rw [if_neg hk] at ht
      obtain rfl : k = 0 := by omega
      obtain ⟨u, hlead', hdue', hu⟩ := ht.readEntries hdue hss hls'
      refine ⟨u, [], Parse.entryKinds plain (x :: ss), hlead.trans hlead', hdue',
        List.forall_mem_nil _, ?_, ?_⟩
      · simpa using Parse.Written.loose plain x ss
      · simpa [Parse.entryKinds] using hu

/-- A key and its list. What the list leaves open is closed in front of what is less deep. -/
lemma Has.readSection {form : Form} {f : Field} {ss : List String} {deep js : List ℤ}
    (h : s.Has ks 0 (deep ++ js ++ [-1])) (hdeep : ∀ j ∈ deep, 0 < j) (hjs : js = [] ∨ js = [0])
    (due : s.Due (sectionLines form plain f ss ++ ls)) (hnames : ∀ x ∈ ss, Named x.toList)
    (hls : ∀ l ∈ ls.head?, l.indent = 0) :
    ∃ t deep' vs, Leads s t ∧ t.Due ls ∧ (∀ j ∈ deep', 0 < j) ∧
      Parse.Written (vs ++ List.replicate deep'.length TokenKind.blockEnd) ss ∧
      t.Has (ks ++ List.replicate deep.length TokenKind.blockEnd ++
        (if js = [] then [TokenKind.blockMapStart] else []) ++
          TokenKind.key :: .scalar true f.name.toList :: .value :: vs) 0
        (deep' ++ [0] ++ [-1]) := by
  cases form with
  | flow =>
    obtain ⟨t, r, hlead, hrest, ha, hends, hrem, ht⟩ := h.readKey hdeep hjs due (.inr rfl)
    obtain ⟨u, hlead', hurest, -, hu⟩ := ht.sequence (n := 1) (r := r) ha
      (.inr (by rw [ht.indent]; simp [col])) (fun x hx => lists_written (hnames x hx) plain)
      (by rw [hrest]; simp)
    exact ⟨u, [], _, hlead.trans hlead', .of_ends hends hrem hurest, List.forall_mem_nil _,
      by simpa [Parse.flowKinds] using Parse.Written.flow plain ss,
      by simpa [Parse.flowKinds] using hu⟩
  | block k =>
    obtain ⟨t, r, hlead, hrest, ha, hends, hrem, ht⟩ := h.readKey hdeep hjs due (.inl rfl)
    obtain ⟨u, deep', vs, hlead', hdue, hdeep', hwritten, hu⟩ :=
      ht.readBlock (.of_ends hends hrem hrest) hnames hls
    exact ⟨u, deep', vs, hlead.trans hlead', hdue, hdeep', hwritten, by simpa using hu⟩

/-- The tokens of a text of two keys and their lists. -/
theorem tokens_sections {cs : List Char} {form form' : Form} {plain plain' : Bool} {f g : Field}
    {ss us : List String} (hcs : cs.all isPrintable) (hss : ∀ x ∈ ss, Named x.toList)
    (hus : ∀ x ∈ us, Named x.toList)
    (hrem : Remains (sectionLines form plain f ss ++ sectionLines form' plain' g us) cs 0) :
    ∃ ts ls, Yaml.tokens cs = some ts ∧ Parse.Entered ls [(f, ss), (g, us)] ∧
      ts.map (·.kind) = TokenKind.blockMapStart :: (ls ++ [TokenKind.blockEnd, .streamEnd]) := by
  have hfirst : ∀ l ∈ (sectionLines form' plain' g us).head?, l.indent = 0 := by
    cases form' <;> rintro l ⟨⟩ <;> rfl
  have hdue : (start cs).Due _ := ⟨hrem, .inl rfl⟩
  have hstart : (start cs).Has [] 0 ([] ++ [] ++ [-1]) := has_start cs
  obtain ⟨t, deep, vs, hlead, hdue', hdeep, hvs, ht⟩ :=
    hstart.readSection nofun (.inl rfl) hdue hss hfirst
  rw [← List.append_nil (sectionLines form' plain' g us)] at hdue'
  obtain ⟨u, deep', vs', hlead', hdue'', hdeep', hvs', hu⟩ :=
    ht.readSection hdeep (.inr rfl) hdue' hus nofun
  have hnonneg : ∀ j ∈ deep' ++ [0], 0 ≤ j :=
    List.forall_mem_append.mpr ⟨fun j hj => (hdeep' j hj).le, by simp⟩
  obtain ⟨ts, hts, hkinds⟩ :=
    tokens_eq hcs (hlead.trans hlead') hu hnonneg (hdue''.arrives hu).1
  refine ⟨ts, .key :: .scalar true f.name.toList :: .value ::
    (vs ++ List.replicate deep.length TokenKind.blockEnd ++
      TokenKind.key :: .scalar true g.name.toList :: .value ::
        (vs' ++ List.replicate deep'.length TokenKind.blockEnd ++ [])),
    hts, .cons hvs (.cons hvs' .nil), ?_⟩
  rw [hkinds]
  simp [List.replicate_succ']

end lines

end ExampleSuite.Yaml.Scan
