import ExampleSuite.Proofs.Scalars

/-!
The scan, token by token.

Of a state it is kept which kinds of tokens there are so far, how many flow collections are open
and at which columns blocks are. A lemma for each kind of token tells what becomes of this, and
from them the scan of a sequence in brackets follows.
-/

namespace ExampleSuite.Yaml.Scan

/-! ### Runs -/

/-- Steps that each get further in the text. -/
inductive Leads : Scan → Scan → Prop where
  | refl (s : Scan) : Leads s s
  | step {s t u : Scan} (going : s.ended = false) (step : s.step = some t)
      (less : t.at_.rest.length < s.at_.rest.length) (rest : Leads t u) : Leads s u

variable {s t u v : Scan} {ks : List TokenKind} {flow : ℕ} {is js : List ℤ}

lemma Leads.trans (h : Leads s t) (h' : Leads t u) : Leads s u := by
  induction h with
  | refl => exact h'
  | step going step less _ ih => exact .step going step less (ih h')

lemma run_of_ended (hs : s.ended) (fuel : ℕ) : run fuel s = some s := by
  cases fuel <;> simp [run, hs]

/-- There is fuel for each character, and for the end. -/
lemma Leads.run (h : Leads s t) (ht : t.ended = false) (hstep : t.step = some u) (hu : u.ended)
    {fuel : ℕ} (hf : s.at_.rest.length < fuel) : run fuel s = some u := by
  induction h generalizing fuel with
  | refl =>
    cases fuel with
    | zero => omega
    | succ fuel => simp [Scan.run, ht, hstep, run_of_ended hu]
  | step going step less _ ih =>
    cases fuel with
    | zero => omega
    | succ fuel => simpa [Scan.run, going, step] using ih ht hstep (by omega)

/-! ### What is kept of a state -/

/-- No place for a key has to become one. -/
def Calm (ps : List (Option Place)) : Prop := ∀ p, some p ∈ ps → p.required = false

structure Has (s : Scan) (ks : List TokenKind) (flow : ℕ) (is : List ℤ) : Prop where
  kinds : (s.tokens.map (·.kind)).reverse = ks
  flow : s.flow = flow
  indents : s.indent :: s.indents = is
  calm : Calm s.places
  going : s.ended = false

lemma has_start (cs : List Char) : (start cs).Has [] 0 [-1] :=
  ⟨rfl, rfl, rfl, by simp [Calm, start], rfl⟩

lemma Has.flowing (h : s.Has ks flow is) : s.flowing = (flow != 0) := by rw [Scan.flowing, h.flow]

lemma Has.push (h : s.Has ks flow is) (k : Token) : (s.push k).Has (ks ++ [k.kind]) flow is :=
  ⟨by simp [Scan.push, h.kinds], h.flow, h.indents, h.calm, h.going⟩

lemma Has.move (h : s.Has ks flow is) (k : Cursor) (b : Bool) :
    { s with at_ := k, allowed := b : Scan }.Has ks flow is :=
  ⟨h.kinds, h.flow, h.indents, h.calm, h.going⟩

lemma Has.single (h : s.Has ks flow is) (n : ℕ) (k : TokenKind) :
    (s.single n k).Has (ks ++ [k]) flow is :=
  (h.move (s.at_.drop n) s.allowed).push _

lemma Has.places (h : s.Has ks flow is) {ps : List (Option Place)} (hps : Calm ps) :
    { s with places := ps : Scan }.Has ks flow is :=
  ⟨h.kinds, h.flow, h.indents, hps, h.going⟩

/-! ### Places -/

/-- A place, unless it is out of reach. -/
def current (m : Mark) (p : Option Place) : Option Place := p.filter (!stale m ·)

lemma mapM_eq_some_map {α β : Type} {f : α → Option β} {g : α → β} {l : List α}
    (h : ∀ a ∈ l, f a = some (g a)) : l.mapM f = some (l.map g) := by
  induction l with
  | nil => rfl
  | cons a l ih =>
    obtain ⟨ha, hl⟩ := List.forall_mem_cons.mp h
    simp [List.mapM_cons, ha, ih hl]

lemma refresh_eq (h : ∀ p, some p ∈ s.places → p.required → stale s.at_.mark p = false) :
    s.refresh = some { s with places := s.places.map (current s.at_.mark) } := by
  rw [refresh, mapM_eq_some_map (g := current s.at_.mark), Option.map_some]
  rintro (- | p) hp
  · rfl
  · have hp := h p hp
    cases hs : stale s.at_.mark p with
    | false => simp [current, hs, Option.filter]
    | true =>
      have hreq : p.required = false := by simpa [hs] using hp
      simp [current, hs, hreq, Option.filter]

lemma Calm.current {ps : List (Option Place)} (h : Calm ps) (m : Mark) :
    Calm (ps.map (Scan.current m)) := by
  intro p hp
  obtain ⟨q, hq, hcur⟩ := List.mem_map.mp hp
  obtain ⟨rfl, -⟩ := Option.filter_eq_some_iff.mp hcur
  exact h p hq

lemma Calm.tail {p : Option Place} {ps : List (Option Place)} (h : Calm (p :: ps)) : Calm ps :=
  fun q hq => h q (List.mem_cons_of_mem _ hq)

lemma Calm.cons {p : Option Place} {ps : List (Option Place)}
    (hp : ∀ q, p = some q → q.required = false) (h : Calm ps) : Calm (p :: ps) := by
  intro q hq
  rcases List.mem_cons.mp hq with rfl | hq
  · exact hp q rfl
  · exact h q hq

lemma Calm.forgotten {ps : List (Option Place)} (h : Calm ps) :
    Calm (ps.modifyHead fun _ => none) := by
  cases ps with
  | nil => exact h
  | cons p ps => exact h.tail.cons nofun

/-- Forgetting the innermost place fails only where it has to become a key. -/
lemma forget_eq (h : Calm s.places) :
    s.forget = some { s with places := s.places.modifyHead fun _ => none } := by
  obtain ⟨at_, tokens, count, flow, indent, indents, places, allowed, ended⟩ := s
  rcases places with - | ⟨- | p, ps⟩
  · rfl
  · rfl
  · simp [forget, h p (by simp)]

/-- The place that is remembered at the present position. -/
def here (s : Scan) : Place := ⟨!s.flowing && s.indent == s.col, s.count, s.at_.mark⟩

lemma remember_of_allowed (h : Calm s.places) (ha : s.allowed = true) :
    s.remember = some { s with places := some s.here :: s.places.drop 1 } := by
  rw [remember, if_pos ha, forget_eq h, Option.map_some]
  rcases s.places with - | ⟨p, ps⟩ <;> rfl

lemma remember_of_not_allowed (ha : s.allowed = false) : s.remember = some s := by
  simp [remember, ha]

/-- Where a key does not have to begin, remembering a place leaves a state calm. -/
lemma Has.remember (h : s.Has ks flow is) (hreq : s.allowed = true → s.here.required = false) :
    ∃ ps, s.remember = some { s with places := ps } ∧ Calm ps := by
  by_cases ha : s.allowed = true
  · refine ⟨_, remember_of_allowed h.calm ha, Calm.cons ?_ fun p hp => ?_⟩
    · rintro q hq
      exact Option.some.inj hq ▸ hreq ha
    · exact h.calm p (List.mem_of_mem_drop hp)
  · exact ⟨s.places, remember_of_not_allowed (by simpa using ha), h.calm⟩

/-! ### Blocks that end -/

/-- Of the columns of blocks those that are deeper than a column are closed. -/
lemma closeTo_spec {col : ℤ} (m : Mark) (js : List ℤ) (i : ℤ) (ts : List Token) (n : ℕ)
    (h : ∃ j ∈ i :: js, j ≤ col) :
    ∃ is' i' ts' n', closeTo col m js i ts n = (is', i', ts', n') ∧
      i' :: is' = (i :: js).dropWhile (col < ·) ∧ (ts'.map (·.kind)).reverse =
        (ts.map (·.kind)).reverse ++
          List.replicate ((i :: js).takeWhile (col < ·)).length .blockEnd := by
  induction js generalizing i ts n with
  | nil =>
    have hi : ¬col < i := by simpa using h
    exact ⟨[], i, ts, n, rfl, by simp [hi], by simp [hi]⟩
  | cons j js ih =>
    by_cases hi : col < i
    · obtain ⟨is', i', ts', n', hc, his, hts⟩ := ih j (⟨.blockEnd, m, m⟩ :: ts) (n + 1)
        (by simpa [Int.not_le.mpr hi] using h)
      refine ⟨is', i', ts', n', by simp [closeTo, hi, hc], by simpa [hi] using his, ?_⟩
      rw [hts]
      simp [hi, List.replicate_succ]
    · exact ⟨j :: js, i, ts, n, by simp [closeTo, hi], by simp [hi], by simp [hi]⟩

lemma takeWhile_concat {α : Type} {p : α → Bool} {a : α} (ha : p a = false) (l : List α) :
    (l ++ [a]).takeWhile p = l.takeWhile p := by
  induction l with
  | nil => simp [ha]
  | cons b l ih => cases hb : p b <;> simp [hb, ih]

lemma dropWhile_concat {α : Type} {p : α → Bool} {a : α} (ha : p a = false) (l : List α) :
    (l ++ [a]).dropWhile p = l.dropWhile p ++ [a] := by
  induction l with
  | nil => simp [ha]
  | cons b l ih => cases hb : p b <;> simp [hb, ih]

lemma Has.unroll (h : s.Has ks 0 (js ++ [-1])) (col : ℤ) (hcol : -1 ≤ col) :
    (s.unroll col).Has (ks ++ List.replicate (js.takeWhile (col < ·)).length .blockEnd) 0
      (js.dropWhile (col < ·) ++ [-1]) ∧
    (s.unroll col).at_ = s.at_ ∧ (s.unroll col).allowed = s.allowed := by
  have hlast : decide (col < -1) = false := decide_eq_false (Int.not_lt.mpr hcol)
  obtain ⟨is', i', ts', n', hc, his, hts⟩ :=
    closeTo_spec s.at_.mark s.indents s.indent s.tokens s.count ⟨-1, by simp [h.indents], hcol⟩
  have hflow : s.flowing = false := by rw [h.flowing]; rfl
  have hun : s.unroll col =
      { s with indents := is', indent := i', tokens := ts', count := n' } := by
    simp [Scan.unroll, hflow, hc]
  rw [h.indents, takeWhile_concat (p := (col < ·)) hlast] at hts
  rw [h.indents, dropWhile_concat (p := (col < ·)) hlast] at his
  rw [hun, ← h.kinds]
  exact ⟨⟨hts, h.flow, his, h.calm, h.going⟩, rfl, rfl⟩

lemma unroll_of_le {col : ℤ} (h : s.flow ≠ 0 ∨ s.indent ≤ col) : s.unroll col = s := by
  unfold Scan.unroll
  split_ifs with hf
  · rfl
  · have hle : ¬col < s.indent := by
      have := h.resolve_left (by simpa [Scan.flowing] using hf)
      omega
    cases hi : s.indents <;> simp [closeTo, hle, ← hi]

/-! ### Blanks -/

lemma toNext_eq (fuel : ℕ) (s : Scan) :
    toNext fuel s = { s with at_ := (toNext fuel s).at_, allowed := (toNext fuel s).allowed } := by
  induction fuel generalizing s with
  | zero => rfl
  | succ fuel ih =>
    unfold toNext
    dsimp only
    split
    · rw [ih]
    · rfl

lemma Has.toNext (h : s.Has ks flow is) (fuel : ℕ) : (toNext fuel s).Has ks flow is := by
  rw [toNext_eq]
  exact h.move _ _

/-- The state with all that is blank passed. -/
def ahead (s : Scan) : Scan := Scan.toNext (s.at_.rest.length + 1) s

lemma step_eq (s : Scan) : s.step = s.ahead.refresh.bind fun t => (t.unroll t.col).read := rfl

/-- A step passes what is blank, closes the blocks that end there, and reads a token. -/
lemma Has.step_of_block (h : s.Has ks 0 (js ++ [-1])) :
    ∃ t : Scan, s.step = t.read ∧ t.at_ = s.ahead.at_ ∧ t.allowed = s.ahead.allowed ∧
      t.Has (ks ++ List.replicate (js.takeWhile (s.ahead.col < ·)).length .blockEnd) 0
        (js.dropWhile (s.ahead.col < ·) ++ [-1]) := by
  have hn : s.ahead.Has ks 0 (js ++ [-1]) := h.toNext _
  have hr := hn.places (hn.calm.current s.ahead.at_.mark)
  obtain ⟨hu, hat, hallowed⟩ := hr.unroll s.ahead.col (by simp only [col]; omega)
  refine ⟨_, ?_, hat, hallowed, hu⟩
  rw [step_eq, refresh_eq fun p hp hreq => absurd (hn.calm p hp) (by simp [hreq]), Option.bind_some]
  rfl

lemma Has.step_of_le (h : s.Has ks flow is) (hcol : flow ≠ 0 ∨ s.indent ≤ s.ahead.col) :
    ∃ t : Scan, s.step = t.read ∧ t.at_ = s.ahead.at_ ∧ t.allowed = s.ahead.allowed ∧
      t.Has ks flow is := by
  have hn : s.ahead.Has ks flow is := h.toNext _
  have hr := hn.places (hn.calm.current s.ahead.at_.mark)
  have hindent : s.ahead.indent = s.indent := by rw [ahead, toNext_eq]
  refine ⟨{ s.ahead with places := s.ahead.places.map (current s.ahead.at_.mark) }, ?_, rfl, rfl,
    hr⟩
  rw [step_eq, refresh_eq fun p hp hreq => absurd (hn.calm p hp) (by simp [hreq]), Option.bind_some,
    unroll_of_le (hcol.imp (hr.flow ▸ ·) (hindent ▸ ·))]

/-- What a token can begin with. -/
def Inked (c : Char) : Prop := isGap c = false ∧ c ≠ '#' ∧ c ≠ '\uFEFF'

instance (c : Char) : Decidable (Inked c) := inferInstanceAs (Decidable (_ ∧ _))

lemma Inked.ne_newline {c : Char} (h : Inked c) : c ≠ '\n' := by
  rintro rfl
  exact absurd h.1 (by decide)

lemma lineBreak?_of_inked {c : Char} (hc : isBreak c = false) (r : List Char) (m : Mark) :
    Cursor.lineBreak? ⟨c :: r, m⟩ = none := by
  unfold Cursor.lineBreak?
  split
  · simp_all [isBreak]
  · simp_all
  · simp_all

lemma skip_spaces {p : Char → Bool} (hp : p ' ' = true) {c : Char} (hc : p c = false) (n : ℕ)
    (r : List Char) (m : Mark) :
    skipWhile p (List.replicate n ' ' ++ c :: r) m = ⟨c :: r, m.skip n⟩ := by
  induction n generalizing m with
  | zero => simp [skipWhile, hc]
  | succ n ih =>
    have hpast : m.past ' ' = m.skip 1 := Mark.past_eq_skip (by decide) m
    simp [List.replicate_succ, skipWhile, hp, ih, hpast, Nat.add_comm 1]

/-- On a line only spaces are passed. -/
lemma ahead_of_inked {c : Char} (hc : Inked c) {n : ℕ} {r : List Char}
    (hr : s.at_.rest = List.replicate n ' ' ++ c :: r) :
    s.ahead.at_ = ⟨c :: r, s.at_.mark.skip n⟩ ∧ s.ahead.allowed = s.allowed := by
  obtain ⟨hgap, hhash, hbom⟩ := hc
  obtain ⟨hblank, hbreak⟩ := Bool.or_eq_false_iff.mp hgap
  obtain ⟨hspace, htab⟩ := Bool.or_eq_false_iff.mp hblank
  have hhead : s.at_.head ≠ some '\uFEFF' := by
    rw [Cursor.head, hr]
    cases n <;> simp [List.replicate_succ, hbom]
  have hskip : s.at_.skip (fun c => c == ' ' || ((s.flowing || !s.allowed) && c == '\t')) =
      ⟨c :: r, s.at_.mark.skip n⟩ := by
    rw [Cursor.skip, hr]
    exact skip_spaces (by simp) (by simp [hspace, htab]) n r _
  have hhash : Cursor.head ⟨c :: r, s.at_.mark.skip n⟩ ≠ some '#' := by
    simpa [Cursor.head] using hhash
  unfold ahead Scan.toNext
  simp only [hhead, and_false, if_false, hskip, hhash, lineBreak?_of_inked hbreak, and_self]

/-! ### Tokens -/

section tokens

variable {k : TokenKind} {r : List Char}

lemma Has.openFlow (h : s.Has ks flow is) (hreq : s.allowed = true → s.here.required = false) :
    ∃ t, s.openFlow k = some t ∧ t.at_ = s.at_.drop 1 ∧ t.allowed = true ∧
      t.Has (ks ++ [k]) (flow + 1) is := by
  obtain ⟨ps, hrem, hps⟩ := h.remember hreq
  have h' : Has { s with places := none :: ps, flow := s.flow + 1, allowed := true } ks (flow + 1)
      is :=
    ⟨h.kinds, congrArg (· + 1) h.flow, h.indents, hps.cons nofun, h.going⟩
  exact ⟨_, by rw [Scan.openFlow, hrem, Option.map_some], rfl, rfl, h'.single 1 k⟩

lemma Has.closeFlow (h : s.Has ks (flow + 1) is) :
    ∃ t, s.closeFlow k = some t ∧ t.at_ = s.at_.drop 1 ∧ t.allowed = false ∧
      t.Has (ks ++ [k]) flow is := by
  have hcalm := h.calm.forgotten
  have h' : Has { s with
      places := (s.places.modifyHead fun _ => none).drop 1, flow := s.flow - 1, allowed := false }
      ks flow is :=
    ⟨h.kinds, by simp [h.flow], h.indents, fun p hp => hcalm p (List.mem_of_mem_drop hp), h.going⟩
  refine ⟨_, ?_, rfl, rfl, h'.single 1 k⟩
  simp [Scan.closeFlow, forget_eq h.calm, Scan.flowing, h.flow, Scan.single]

lemma Has.readFlowEntry (h : s.Has ks flow is) :
    ∃ t, s.readFlowEntry = some t ∧ t.at_ = s.at_.drop 1 ∧ t.allowed = true ∧
      t.Has (ks ++ [TokenKind.flowEntry]) flow is := by
  have h' := (h.places h.calm.forgotten).move s.at_ true
  exact ⟨_, by rw [Scan.readFlowEntry, forget_eq h.calm, Option.map_some], rfl, rfl,
    h'.single 1 .flowEntry⟩

lemma Has.readBlockEntry_of_roll (h : t.Has ks 0 is) (ha : s.allowed = true)
    (hroll : s.roll s.col none .blockSeqStart s.at_.mark = t) :
    ∃ u, s.readBlockEntry = some u ∧ u.at_ = t.at_.drop 1 ∧ u.allowed = true ∧
      u.Has (ks ++ [TokenKind.blockEntry]) 0 is := by
  have h' := (h.places h.calm.forgotten).move t.at_ true
  exact ⟨_, by rw [Scan.readBlockEntry, if_neg (by simp [ha]), hroll, forget_eq h.calm,
    Option.map_some], rfl, rfl, h'.single 1 .blockEntry⟩

/-- An entry of a block sequence, which opens the sequence where it is deeper than the block that
it is in. -/
lemma Has.readBlockEntry (h : s.Has ks 0 is) (ha : s.allowed = true) :
    ∃ t, s.readBlockEntry = some t ∧ t.at_ = s.at_.drop 1 ∧ t.allowed = true ∧
      if s.indent < s.col then t.Has (ks ++ [TokenKind.blockSeqStart, .blockEntry]) 0 (s.col :: is)
      else t.Has (ks ++ [TokenKind.blockEntry]) 0 is := by
  have hflow : s.flowing = false := by rw [h.flowing]; rfl
  split_ifs with hcol
  · have hroll : s.roll s.col none .blockSeqStart s.at_.mark =
        { s with indents := s.indent :: s.indents, indent := s.col }.push
          ⟨.blockSeqStart, s.at_.mark, s.at_.mark⟩ := by
      simp [Scan.roll, hflow, hcol]
    have h' : Has { s with indents := s.indent :: s.indents, indent := s.col } ks 0 (s.col :: is) :=
      ⟨h.kinds, h.flow, by rw [← h.indents], h.calm, h.going⟩
    have hread := (h'.push ⟨.blockSeqStart, s.at_.mark, s.at_.mark⟩).readBlockEntry_of_roll ha hroll
    rw [List.append_assoc] at hread
    exact hread
  · exact h.readBlockEntry_of_roll ha (by simp [Scan.roll, hcol])

/-! ### Scalars -/

/-- A text that is read as a scalar where something else follows. -/
def Spells (flowing : Bool) (w : List Char) (plain : Bool) (text r : List Char) : Prop :=
  ∀ s : Scan, s.at_.rest = w ++ r → s.flowing = flowing →
    s.at_.mark.col ≠ 0 ∨ separatorNext (w ++ r) = false →
    s.read = s.remember.bind fun t =>
      some ({ t with at_ := ⟨r, s.at_.mark.skip w.length⟩, allowed := false }.push
        ⟨.scalar plain text, s.at_.mark, s.at_.mark.skip w.length⟩)

lemma not_separator {c : Char} (hd : c ≠ '-') (hp : c ≠ '.') (r : List Char) :
    separatorNext (c :: r) = false := by
  unfold separatorNext
  split <;> simp_all

lemma forget_keeps (h : s.forget = some t) : ∃ ps, t = { s with places := ps } := by
  unfold forget at h
  split at h
  · split_ifs at h
    exact ⟨_, (Option.some.inj h).symm⟩
  · exact ⟨s.places, (Option.some.inj h).symm⟩

lemma remember_keeps (h : s.remember = some t) : ∃ ps, t = { s with places := ps } := by
  unfold Scan.remember at h
  split_ifs at h
  · obtain ⟨u, hu, rfl⟩ := Option.map_eq_some_iff.mp h
    obtain ⟨ps, rfl⟩ := forget_keeps hu
    exact ⟨_, rfl⟩
  · exact ⟨s.places, (Option.some.inj h).symm⟩

lemma spells_quoted {text w : List Char} (h : Quotes text w) (flowing : Bool) (r : List Char) :
    Spells flowing ('"' :: (w ++ ['"'])) false text r := by
  intro s hr _ _
  have hat : s.at_ = ⟨'"' :: (w ++ '"' :: r), s.at_.mark⟩ := by
    rw [← show s.at_.rest = '"' :: (w ++ '"' :: r) by simpa using hr]
  have hread : s.read =
      s.content fun k => (quoted '"' k).map fun p => (.scalar false p.1, p.2) := by
    rw [Scan.read, hat]
    simp [not_separator]
  rw [hread, content]
  refine Option.bind_congr fun t ht => ?_
  obtain ⟨ps, rfl⟩ := remember_keeps ht
  dsimp only
  rw [hat, quoted_quotes h]
  simp

/-- What begins with no mark of its own is a plain scalar. -/
lemma read_eq_readPlain {c : Char} (hi : isIndicator c = false) (hg : isGap c = false)
    (hrest : s.at_.rest = c :: r) (hsep : s.at_.mark.col ≠ 0 ∨ separatorNext (c :: r) = false) :
    s.read = s.readPlain := by
  have hne (d : Char) (hd : isIndicator d = true) : c ≠ d := by
    rintro rfl
    simp [hi] at hd
  have hsep' : ¬((s.at_.mark.col == 0) = true ∧ separatorNext (c :: r) = true) := by
    rcases hsep with h | h <;> simp [h]
  simp only [Scan.read, hrest, hsep', hi, hg, hne '%' rfl, hne '[' rfl, hne '\x7b' rfl, hne ']' rfl,
    hne '\x7d' rfl, hne ',' rfl, hne '-' rfl, hne '?' rfl, hne ':' rfl, hne '*' rfl, hne '&' rfl,
    hne '!' rfl, hne '|' rfl, hne '>' rfl, hne '\'' rfl, hne '"' rfl]
  simp

lemma spells_plain {flowing : Bool} {w r : List Char} (hne : w ≠ []) (hhead : w.head? ≠ some '-')
    (hw : ∀ c ∈ w, Bare c) (hr : ∀ m, plainRun flowing r m = some ([], ⟨r, m⟩))
    (hgap : gapNext r = false) : Spells flowing w true w r := by
  intro s hrest hf hcol
  have hat : s.at_ = ⟨w ++ r, s.at_.mark⟩ := by rw [← hrest]
  have hread : s.read = s.readPlain := by
    obtain ⟨c, w, rfl⟩ := List.exists_cons_of_ne_nil hne
    obtain ⟨-, hg, -, -, -, -, -, -, hi⟩ := (hw c List.mem_cons_self).spec
    exact read_eq_readPlain (hi (by simpa using hhead)) hg hrest hcol
  rw [hread, readPlain]
  refine Option.bind_congr fun t ht => ?_
  obtain ⟨ps, rfl⟩ := remember_keeps ht
  dsimp only
  have hf' : Scan.flowing { s with places := ps } = flowing := hf
  rw [hf', hat, plain_append hne hw hcol hr hgap]
  simp

lemma Has.scalar {w text : List Char} {plain : Bool} (h : s.Has ks flow is)
    (hreq : s.allowed = true → s.here.required = false) (hs : Spells s.flowing w plain text r)
    (hrest : s.at_.rest = w ++ r) (hcol : s.at_.mark.col ≠ 0 ∨ separatorNext (w ++ r) = false) :
    ∃ t, s.read = some t ∧ t.at_ = ⟨r, s.at_.mark.skip w.length⟩ ∧ t.allowed = false ∧
      t.Has (ks ++ [TokenKind.scalar plain text]) flow is := by
  obtain ⟨ps, hrem, hps⟩ := h.remember hreq
  have h' := ((h.places hps).move ⟨r, s.at_.mark.skip w.length⟩ false).push
    ⟨.scalar plain text, s.at_.mark, s.at_.mark.skip w.length⟩
  exact ⟨_, by rw [hs s hrest rfl hcol, hrem, Option.bind_some], rfl, rfl, h'⟩

lemma ahead_eq_self {c : Char} (hc : Inked c) (hr : s.at_.rest = c :: r) : s.ahead = s := by
  obtain ⟨hat, hallowed⟩ := ahead_of_inked (s := s) (n := 0) hc hr
  have hself : s.ahead = { s with at_ := s.ahead.at_, allowed := s.ahead.allowed } := toNext_eq _ s
  rw [hself, hat, hallowed, Mark.skip_zero, ← hr]

/-- A colon makes a key of the token in front of it, whose place was remembered. The key opens a
mapping where it is deeper than the block that it is in. -/
lemma Has.readValue (h : s.Has ks flow is) {k : Cursor} {x : Token} {p : Place} {b : Bool}
    (hp : p.number = s.count) :
    ∃ t, Scan.readValue { s with
        at_ := k, tokens := x :: s.tokens, count := s.count + 1, places := some p :: s.places,
        allowed := b } = some t ∧
      t.at_ = k.drop 1 ∧ t.allowed = false ∧
      if flow = 0 ∧ s.indent < p.mark.col then
        t.Has (ks ++ [TokenKind.blockMapStart, .key, x.kind, .value]) flow (p.mark.col :: is)
      else t.Has (ks ++ [TokenKind.key, x.kind, .value]) flow is := by
  obtain ⟨at_, tokens, count, sflow, indent, indents, places, allowed, ended⟩ := s
  obtain rfl : sflow = flow := h.flow
  have hcalm : Calm (none :: places) := h.calm.cons nofun
  have hone : count + 1 - count = 1 := by omega
  have htwo : count + 1 + 1 - count = 2 := by omega
  by_cases hdeep : sflow = 0 ∧ indent < p.mark.col
  · have hread : Scan.readValue ⟨k, x :: tokens, count + 1, sflow, indent, indents,
        some p :: places, b, ended⟩ = some ⟨k.drop 1, ⟨.value, k.mark, k.mark.skip 1⟩ :: x ::
          ⟨.key, p.mark, p.mark⟩ :: ⟨.blockMapStart, p.mark, p.mark⟩ :: tokens, count + 4, sflow,
          p.mark.col, indent :: indents, none :: places, false, ended⟩ := by
      simp [Scan.readValue, insert, roll, Scan.single, Scan.push, Scan.flowing, hdeep, hp, hone,
        htwo, List.splitAt_eq]
    refine ⟨_, hread, rfl, rfl, ?_⟩
    rw [if_pos hdeep]
    exact ⟨by simp [← h.kinds], rfl, by rw [← h.indents], hcalm, h.going⟩
  · have hread : Scan.readValue ⟨k, x :: tokens, count + 1, sflow, indent, indents,
        some p :: places, b, ended⟩ = some ⟨k.drop 1, ⟨.value, k.mark, k.mark.skip 1⟩ :: x ::
          ⟨.key, p.mark, p.mark⟩ :: tokens, count + 3, sflow, indent, indents, none :: places,
          false, ended⟩ := by
      simp [Scan.readValue, insert, roll, Scan.single, Scan.push, Scan.flowing, hdeep, hp, hone,
        List.splitAt_eq]
    refine ⟨_, hread, rfl, rfl, ?_⟩
    rw [if_neg hdeep]
    exact ⟨by simp [← h.kinds], rfl, h.indents, hcalm, h.going⟩

lemma read_eq_readValue (hrest : s.at_.rest = ':' :: r) (hgap : s.flowing ∨ gapNext r) :
    s.read = s.readValue := by
  simp only [Scan.read, hrest, not_separator (show ':' ≠ '-' by decide) (by decide)]
  simp [hgap]

/-- A scalar with a colon behind it is a key. -/
lemma Has.key {w text : List Char} {plain : Bool} (h : s.Has ks flow is) (ha : s.allowed = true)
    (hs : Spells s.flowing w plain text (':' :: r)) (hrest : s.at_.rest = w ++ ':' :: r)
    (hgap : flow ≠ 0 ∨ gapNext r) (hlen : w.length ≤ 1024)
    (hsep : s.at_.mark.col ≠ 0 ∨ separatorNext (w ++ ':' :: r) = false)
    (hcol : flow ≠ 0 ∨ s.indent ≤ s.col) :
    ∃ t u, s.read = some t ∧ t.ended = false ∧ t.at_.rest = ':' :: r ∧ t.step = some u ∧
      u.at_ = ⟨r, s.at_.mark.skip (w.length + 1)⟩ ∧ u.allowed = false ∧
      if flow = 0 ∧ s.indent < s.col then
        u.Has (ks ++ [TokenKind.blockMapStart, .key, .scalar plain text, .value]) flow (s.col :: is)
      else u.Has (ks ++ [TokenKind.key, .scalar plain text, .value]) flow is := by
  have hcalm : Calm (s.places.drop 1) := fun p hp => h.calm p (List.mem_of_mem_drop hp)
  let m := s.at_.mark.skip w.length
  let t : Scan := { s with
    at_ := ⟨':' :: r, m⟩
    tokens := ⟨.scalar plain text, s.at_.mark, m⟩ :: s.tokens
    count := s.count + 1
    places := some s.here :: s.places.drop 1
    allowed := false }
  have hread : s.read = some t := by
    rw [hs s hrest rfl hsep, remember_of_allowed h.calm ha, Option.bind_some]
    rfl
  have hahead : t.ahead = t := ahead_eq_self (c := ':') (by decide) rfl
  have hhere : stale m s.here = false := by simp [stale, here, m, hlen]
  let t' : Scan := { t with places := some s.here :: (s.places.drop 1).map (current m) }
  have hrefresh : t.refresh = some t' := by
    rw [refresh_eq]
    · simp [t, t', current, hhere, Option.filter]
    · intro p hp hreq
      rcases List.mem_cons.mp hp with hp | hp
      · rw [Option.some.inj hp]
        exact hhere
      · simp [hcalm p hp] at hreq
  have hunroll : t'.unroll t'.col = t' := by
    refine unroll_of_le (hcol.imp (h.flow ▸ ·) fun hle => ?_)
    simp only [col, t', t, m, Mark.skip_col] at hle ⊢
    omega
  have hcolon : t'.read = t'.readValue := by
    refine read_eq_readValue (r := r) rfl (hgap.imp_left fun hf => ?_)
    simpa [Scan.flowing, t', t, h.flow] using hf
  obtain ⟨u, hu, hat, hallowed, hhas⟩ := (h.places (hcalm.current m)).readValue
    (k := ⟨':' :: r, m⟩) (x := ⟨.scalar plain text, s.at_.mark, m⟩) (p := s.here) (b := false) rfl
  refine ⟨t, u, hread, h.going, rfl, ?_, ?_, hallowed, hhas⟩
  · rw [step_eq, hahead, hrefresh, Option.bind_some, hunroll, hcolon]
    exact hu
  · rw [hat]
    simp [Cursor.drop, m]

end tokens

/-! ### Sequences in brackets -/

section flow

variable {k : TokenKind} {c : Char} {n : ℕ} {r : List Char}

/-- Where no block ends a step reads the token behind the spaces. -/
lemma Has.step_of_inked (h : s.Has ks flow is) (hcol : flow ≠ 0 ∨ s.indent ≤ s.col) (hc : Inked c)
    (hrest : s.at_.rest = List.replicate n ' ' ++ c :: r) :
    ∃ t : Scan, s.step = t.read ∧ t.at_ = ⟨c :: r, s.at_.mark.skip n⟩ ∧ t.allowed = s.allowed ∧
      t.Has ks flow is := by
  obtain ⟨hat', hallowed'⟩ := ahead_of_inked hc hrest
  obtain ⟨t, hstep, hat, hallowed, ht⟩ := h.step_of_le (hcol.imp_right fun hle => by
    simp only [col, hat', Mark.skip_col] at hle ⊢
    omega)
  exact ⟨t, hstep, hat.trans hat', hallowed.trans hallowed', ht⟩

lemma Has.here_of_flow (h : s.Has ks flow is) (hflow : flow ≠ 0) : s.here.required = false := by
  simp [here, h.flowing, hflow]

lemma Has.comma (h : s.Has ks flow is) (hflow : flow ≠ 0) (hrest : s.at_.rest = ',' :: r) :
    ∃ t, s.step = some t ∧ t.at_ = ⟨r, s.at_.mark.skip 1⟩ ∧ t.allowed = true ∧
      t.Has (ks ++ [TokenKind.flowEntry]) flow is := by
  obtain ⟨t, hstep, hat, -, ht⟩ := h.step_of_inked (n := 0) (.inl hflow) (by decide) hrest
  obtain ⟨u, hu, hat', hallowed, hhas⟩ := ht.readFlowEntry
  have hread : t.read = t.readFlowEntry := by simp [Scan.read, hat, not_separator]
  exact ⟨u, by rw [hstep, hread, hu], by rw [hat', hat]; rfl, hallowed, hhas⟩

lemma Has.bracket (h : s.Has ks (flow + 1) is)
    (hrest : s.at_.rest = List.replicate n ' ' ++ ']' :: r) :
    ∃ t, s.step = some t ∧ t.at_.rest = r ∧ t.allowed = false ∧
      t.Has (ks ++ [TokenKind.flowSeqEnd]) flow is := by
  obtain ⟨t, hstep, hat, -, ht⟩ := h.step_of_inked (.inl (by simp)) (by decide) hrest
  obtain ⟨u, hu, hat', hallowed, hhas⟩ := ht.closeFlow (k := .flowSeqEnd)
  have hread : t.read = t.closeFlow .flowSeqEnd := by simp [Scan.read, hat, not_separator]
  exact ⟨u, by rw [hstep, hread, hu], by rw [hat', hat]; rfl, hallowed, hhas⟩

/-- A text that is read as a scalar in a flow collection. -/
structure Lists (plain : Bool) (text w : List Char) : Prop where
  inked : ∃ c w', w = c :: w' ∧ Inked c
  spells (r : List Char) : r.head? = some ',' ∨ r.head? = some ']' → Spells true w plain text r

lemma Has.item {plain : Bool} {text w : List Char} (h : s.Has ks flow is) (hflow : flow ≠ 0)
    (hw : Lists plain text w) (hr : r.head? = some ',' ∨ r.head? = some ']')
    (hrest : s.at_.rest = List.replicate n ' ' ++ (w ++ r)) (hcol : s.at_.mark.col ≠ 0) :
    ∃ t, s.step = some t ∧ t.at_ = ⟨r, s.at_.mark.skip (n + w.length)⟩ ∧ t.allowed = false ∧
      t.Has (ks ++ [TokenKind.scalar plain text]) flow is := by
  obtain ⟨c, w, rfl, hc⟩ := hw.inked
  obtain ⟨t, hstep, hat, -, ht⟩ := h.step_of_inked (.inl hflow) hc hrest
  have hspells := hw.spells r hr
  rw [← show t.flowing = true by simp [ht.flowing, hflow]] at hspells
  obtain ⟨u, hu, hat', hallowed, hhas⟩ := ht.scalar (fun _ => ht.here_of_flow hflow) hspells
    (by rw [hat]; rfl) (.inl (by rw [hat]; simp [hcol]))
  exact ⟨u, by rw [hstep, hu], by rw [hat', hat, Mark.skip_skip], hallowed, hhas⟩

/-- The items of a sequence in brackets, up to its end. -/
lemma Has.items {plain : Bool} {write : String → List Char} {ss : List String}
    (h : s.Has ks (flow + 1) is) (hw : ∀ s ∈ ss, Lists plain s.toList (write s))
    (hrest : s.at_.rest =
      List.replicate n ' ' ++ (List.intercalate [',', ' '] (ss.map write) ++ ']' :: r))
    (hcol : s.at_.mark.col ≠ 0) :
    ∃ t, Leads s t ∧ t.at_.rest = r ∧ t.allowed = false ∧
      t.Has (ks ++ (ss.map fun s => TokenKind.scalar plain s.toList).intersperse .flowEntry ++
        [TokenKind.flowSeqEnd]) flow is := by
  induction ss generalizing s ks n with
  | nil =>
    obtain ⟨t, hstep, hrest', hallowed, ht⟩ := h.bracket hrest
    refine ⟨t, .step h.going hstep ?_ (.refl t), hrest', hallowed, by simpa using ht⟩
    simp [hrest, hrest']
    omega
  | cons x xs ih =>
    obtain ⟨hx, hxs⟩ := List.forall_mem_cons.mp hw
    have hpos : 0 < (write x).length := by
      obtain ⟨c, w', hcw, -⟩ := hx.inked
      simp [hcw]
    cases xs with
    | nil =>
      obtain ⟨t, hstep, hat, -, ht⟩ :=
        h.item (r := ']' :: r) (by simp) hx (.inr rfl) (by simpa using hrest) hcol
      obtain ⟨u, hstep', hrest', hallowed, hu⟩ := ht.bracket (n := 0) (by rw [hat]; rfl)
      refine ⟨u, .step h.going hstep ?_ (.step ht.going hstep' ?_ (.refl u)), hrest', hallowed,
        by simpa using hu⟩
      · simp [hat, hrest]
        omega
      · simp [hat, hrest']
    | cons y ys =>
      obtain ⟨t, hstep, hat, -, ht⟩ := h.item (r := ',' :: ' ' ::
          (List.intercalate [',', ' '] ((y :: ys).map write) ++ ']' :: r))
        (by simp) hx (.inl rfl) (by simpa using hrest) hcol
      obtain ⟨u, hstep', hat', -, hu⟩ := ht.comma (by simp) (by rw [hat])
      obtain ⟨v, hv, hrest', hallowed, hv'⟩ :=
        ih (n := 1) hu hxs (by rw [hat']; rfl) (by rw [hat', hat]; simp)
      refine ⟨v, .step h.going hstep ?_ (.step ht.going hstep' ?_ hv), hrest', hallowed,
        by simpa using hv'⟩
      · simp [hat, hrest]
        omega
      · simp [hat, hat']

/-- A sequence in brackets, where no key may begin. -/
lemma Has.sequence {plain : Bool} {write : String → List Char} {ss : List String}
    (h : s.Has ks flow is) (ha : s.allowed = false) (hcol : flow ≠ 0 ∨ s.indent ≤ s.col)
    (hw : ∀ s ∈ ss, Lists plain s.toList (write s)) (hrest : s.at_.rest =
      List.replicate n ' ' ++ '[' :: (List.intercalate [',', ' '] (ss.map write) ++ ']' :: r)) :
    ∃ t, Leads s t ∧ t.at_.rest = r ∧ t.allowed = false ∧
      t.Has (ks ++ TokenKind.flowSeqStart ::
        ((ss.map fun s => TokenKind.scalar plain s.toList).intersperse .flowEntry ++
          [TokenKind.flowSeqEnd])) flow is := by
  obtain ⟨t, hstep, hat, hallowed, ht⟩ := h.step_of_inked hcol (by decide) hrest
  obtain ⟨u, hu, hat', -, hu'⟩ := ht.openFlow (k := .flowSeqStart) (by simp [hallowed, ha])
  have hread : t.read = t.openFlow .flowSeqStart := by simp [Scan.read, hat, not_separator]
  have hrest' : u.at_.rest = List.intercalate [',', ' '] (ss.map write) ++ ']' :: r := by
    rw [hat', hat]
    rfl
  obtain ⟨v, hv, hrest'', hallowed', hv'⟩ := hu'.items (n := 0) hw (by simpa using hrest')
    (by rw [hat', hat]; simp [Cursor.drop])
  refine ⟨v, .step h.going (by rw [hstep, hread, hu]) ?_ hv, hrest'', hallowed', by simpa using hv'⟩
  rw [hrest', hrest]
  simp
  omega

end flow

/-! ### The end -/

lemma read_eq_endStream (hrest : s.at_.rest = []) : s.read = s.endStream := by
  simp [Scan.read, hrest]

/-- At the end of the text all blocks are closed. -/
lemma Has.endStream (h : s.Has ks 0 (js ++ [-1])) (hjs : ∀ j ∈ js, 0 ≤ j) :
    ∃ t, s.endStream = some t ∧ t.ended ∧
      (t.tokens.map (·.kind)).reverse =
        ks ++ List.replicate js.length TokenKind.blockEnd ++ [TokenKind.streamEnd] := by
  have hall : js.takeWhile (-1 < ·) = js :=
    List.takeWhile_eq_self_iff.mpr fun j hj =>
      decide_eq_true (Int.lt_of_lt_of_le (by simp) (hjs j hj))
  let m := if s.at_.mark.col = 0 then s.at_.mark else s.at_.mark.newline 0
  obtain ⟨hu, -, -⟩ := (h.move ⟨[], m⟩ s.allowed).unroll (-1) (by simp)
  rw [hall] at hu
  have hend : s.endStream = (Scan.forget (Scan.unroll { s with at_ := ⟨[], m⟩ } (-1))).bind fun t =>
      some ({ t with allowed := false, ended := true }.push ⟨.streamEnd, m, m⟩) := rfl
  refine ⟨_, by rw [hend, forget_eq hu.calm, Option.bind_some], rfl, ?_⟩
  simp [Scan.push, hu.kinds]

lemma Has.finish (h : s.Has ks 0 (js ++ [-1])) (hjs : ∀ j ∈ js, 0 ≤ j)
    (hrest : s.ahead.at_.rest = []) :
    ∃ t, s.step = some t ∧ t.ended ∧
      (t.tokens.map (·.kind)).reverse =
        ks ++ List.replicate js.length TokenKind.blockEnd ++ [TokenKind.streamEnd] := by
  obtain ⟨t, hstep, hat, -, ht⟩ := h.step_of_block
  have hdrop : ∀ j ∈ js.dropWhile (s.ahead.col < ·), 0 ≤ j :=
    fun j hj => hjs j ((List.dropWhile_sublist _).subset hj)
  obtain ⟨u, hu, hended, hkinds⟩ := ht.endStream hdrop
  have hlen : (js.takeWhile (s.ahead.col < ·)).length + (js.dropWhile (s.ahead.col < ·)).length =
      js.length := by
    rw [← List.length_append, List.takeWhile_append_dropWhile]
  refine ⟨u, by rw [hstep, read_eq_endStream (by rw [hat, hrest]), hu], hended, ?_⟩
  rw [hkinds, List.append_assoc ks, List.replicate_append_replicate, hlen]

/-- The tokens of a text that is scanned up to its end. -/
lemma tokens_eq {cs : List Char} (hcs : cs.all isPrintable) (hs : Leads (start cs) s)
    (h : s.Has ks 0 (js ++ [-1])) (hjs : ∀ j ∈ js, 0 ≤ j) (hrest : s.ahead.at_.rest = []) :
    ∃ ts, Yaml.tokens cs = some ts ∧
      ts.map (·.kind) =
        ks ++ List.replicate js.length TokenKind.blockEnd ++ [TokenKind.streamEnd] := by
  obtain ⟨t, hstep, hended, hkinds⟩ := h.finish hjs hrest
  have hfuel : (start cs).at_.rest.length < cs.length + 2 := by simp [start]
  have hrun := hs.run h.going hstep hended hfuel
  exact ⟨t.tokens.reverse, by rw [Yaml.tokens, if_pos hcs, hrun, Option.map_some], by
    rw [List.map_reverse, hkinds]⟩

end ExampleSuite.Yaml.Scan
