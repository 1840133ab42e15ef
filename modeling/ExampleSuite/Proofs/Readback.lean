import ExampleSuite.Proofs.Entries
import ExampleSuite.Proofs.Finishing

/-!
Reading a run log back.

The plain log tells each example and its outcome, if the paths are text without newlines. An entry
ends at the first newline, its outcome is known by what it begins with, and what is told besides
stands after the last space that follows the path. All between is the path, whatever it reads like.
-/

namespace ExampleSuite

/-! ### Cuts -/

section cuts

variable {α : Type} {a : α} {x y u v : List α}

/-- The first occurrence of a separator tells what comes before it and after. -/
lemma append_cons_inj_first (hx : a ∉ x) (hy : a ∉ y) (h : x ++ a :: u = y ++ a :: v) :
    x = y ∧ u = v := by
  induction x generalizing y with
  | nil =>
    cases y with
    | nil => exact ⟨rfl, (List.cons.inj h).2⟩
    | cons b y => exact absurd ((List.cons.inj h).1 ▸ List.mem_cons_self) hy
  | cons b x ih =>
    cases y with
    | nil => exact absurd ((List.cons.inj h).1 ▸ List.mem_cons_self) hx
    | cons c y =>
      obtain ⟨hbc, hrest⟩ := List.cons.inj h
      obtain ⟨rfl, rfl⟩ := ih (fun hm => hx (List.mem_cons_of_mem b hm))
        (fun hm => hy (List.mem_cons_of_mem c hm)) hrest
      exact ⟨congrArg (· :: x) hbc, rfl⟩

/-- So does the last. -/
lemma append_cons_inj_last (hu : a ∉ u) (hv : a ∉ v) (h : x ++ a :: u = y ++ a :: v) :
    x = y ∧ u = v := by
  have hrev : u.reverse ++ a :: x.reverse = v.reverse ++ a :: y.reverse := by
    simpa using congrArg List.reverse h
  obtain ⟨huv, hxy⟩ := append_cons_inj_first (by simpa using hu) (by simpa using hv) hrev
  exact ⟨List.reverse_injective hxy, List.reverse_injective huv⟩

end cuts

namespace Report

open Bytes (newline unlines)

/-! ### Entries -/

/-- The path is text without a newline. -/
def Legible (p : Path) : Prop := ∃ s : String, p = Bytes.ofString s ∧ '\n' ∉ s.toList

lemma shown_ofString (s : String) : shown (.ofString s) = .ofString s := by
  rw [shown, Bytes.ofString, Utf8.lossy_encode]

lemma Legible.newline_notMem {p : Path} (h : Legible p) : newline ∉ p := by
  obtain ⟨s, rfl, hs⟩ := h
  exact fun hn => hs (Bytes.mem_toList_of_newline hn)

lemma label_unique {o o' : Outcome} (h : (label o).toList <+: (label o').toList) :
    (marker o).2 = (marker o').2 := by
  revert h
  cases o <;> cases o' <;> simp only [label, marker] <;> decide

/-- The kind of an outcome is told by what its entry begins with. -/
lemma label_inj {o o' : Outcome} {x y : List Char}
    (h : (label o).toList ++ x = (label o').toList ++ y) :
    (marker o).2 = (marker o').2 ∧ x = y := by
  have same : (marker o).2 = (marker o').2 :=
    (List.prefix_or_prefix_of_prefix (List.prefix_append _ x) (h ▸ List.prefix_append _ y)).elim
      label_unique fun hp => (label_unique hp).symm
  refine ⟨same, ?_⟩
  rw [label, label, same] at h
  exact List.append_cancel_left h

lemma remark_failed (n : Int) : (remark (.failed n)).toList =
    " (exit code:".toList ++ ' ' :: (toString n ++ ")").toList := by
  have hspace : " (exit code: ".toList = " (exit code:".toList ++ [' '] := by decide
  have htext : remark (.failed n) = " (exit code: " ++ (toString n ++ ")") := String.append_assoc ..
  rw [htext, String.toList_append, hspace, List.append_assoc]
  rfl

lemma remark_skipped (r : SkipReason) : ∃ word : String, ' ' ∉ word.toList ∧
    (remark (.skipped r)).toList = " (excluded by".toList ++ ' ' :: word.toList ∧
      (word = "name)" ↔ r = .byName) := by
  cases r with
  | byName => exact ⟨"name)", by decide⟩
  | byPattern => exact ⟨"pattern)", by decide⟩

lemma space_notMem_code (n : Int) : ' ' ∉ (toString n ++ ")").toList := by
  rw [String.toList_append, List.mem_append]
  rintro (h | h)
  · exact absurd (isDigit_or_of_mem_toString h) (by decide)
  · exact absurd h (by decide)

/-- Outcomes of one kind are told apart by the last word after the path. -/
lemma remark_inj {o o' : Outcome} (same : (marker o).2 = (marker o').2) {x y : List Char}
    (h : x ++ (remark o).toList = y ++ (remark o').toList) : x = y ∧ o = o' := by
  cases o <;> cases o' <;> simp [marker] at same
  case passed.passed | timedOut.timedOut => exact ⟨List.append_cancel_right h, rfl⟩
  case failed.failed n m =>
    -- The path can end in a remark of its own, but no code has a space in it.
    rw [remark_failed, remark_failed, ← List.append_assoc, ← List.append_assoc] at h
    obtain ⟨hpath, hcode⟩ :=
      append_cons_inj_last (space_notMem_code n) (space_notMem_code m) h
    rw [String.toList_append, String.toList_append] at hcode
    have hn : n.repr = m.repr := String.toList_injective (List.append_cancel_right hcode)
    exact ⟨List.append_cancel_right hpath, congrArg Outcome.failed (Int.repr_inj.mp hn)⟩
  case skipped.skipped r r' =>
    obtain ⟨word, hword, hr, hname⟩ := remark_skipped r
    obtain ⟨word', hword', hr', hname'⟩ := remark_skipped r'
    rw [hr, hr', ← List.append_assoc, ← List.append_assoc] at h
    obtain ⟨hpath, hsame⟩ := append_cons_inj_last hword hword' h
    obtain rfl := String.toList_injective hsame
    refine ⟨List.append_cancel_right hpath, congrArg Outcome.skipped ?_⟩
    cases r <;> cases r' <;> simp_all

lemma entry_ofString (s : String) (o : Outcome) : entry (⟨.ofString s⟩, o) =
    Utf8.encode ((label o).toList ++ (s.toList ++ (remark o).toList)) := by
  rw [entry, shown_ofString, Utf8.encode_append, Utf8.encode_append, ← List.append_assoc]
  rfl

lemma entry_inj {r q : Candidate × Outcome} (hr : Legible r.1.path) (hq : Legible q.1.path)
    (h : entry r = entry q) : r = q := by
  obtain ⟨⟨_⟩, o⟩ := r
  obtain ⟨⟨_⟩, o'⟩ := q
  obtain ⟨s, rfl, -⟩ := hr
  obtain ⟨t, rfl, -⟩ := hq
  rw [entry_ofString, entry_ofString] at h
  obtain ⟨same, hrest⟩ := label_inj (Utf8.encode_injective h)
  obtain ⟨hst, rfl⟩ := remark_inj same hrest
  rw [String.toList_injective hst]

/-! ### Logs -/

lemma entry_ne_nil (r : Candidate × Outcome) : entry r ≠ [] := by
  have hlabel : Bytes.ofString (label r.2) ≠ [] := by
    cases r.2 <;> simp only [label, marker] <;> decide
  simp [entry, hlabel]

/-- Entries in front of an empty line are told apart by the lines. -/
lemma entries_inj {rs qs : List (Candidate × Outcome)} (hr : ∀ r ∈ rs, Legible r.1.path)
    (hq : ∀ q ∈ qs, Legible q.1.path) {u v : Bytes}
    (h : unlines (rs.map entry) ++ newline :: u = unlines (qs.map entry) ++ newline :: v) :
    rs = qs := by
  have starts {r : Candidate × Outcome} (hr : Legible r.1.path) (x y : Bytes) :
      entry r ++ x ≠ newline :: y := by
    intro he
    cases hs : entry r with
    | nil => exact entry_ne_nil r hs
    | cons b e =>
      rw [hs] at he
      refine newline_notMem_entry hr.newline_notMem ?_
      rw [hs, (List.cons.inj he).1]
      exact List.mem_cons_self
  -- What follows the entries begins with a newline, and no entry does, so they end together.
  induction rs generalizing qs with
  | nil =>
    cases qs with
    | nil => rfl
    | cons q qs =>
      rw [List.map_cons, Bytes.unlines_cons, List.append_assoc] at h
      exact absurd h.symm (starts (hq q List.mem_cons_self) _ _)
  | cons r rs ih =>
    cases qs with
    | nil =>
      rw [List.map_cons, Bytes.unlines_cons, List.append_assoc] at h
      exact absurd h (starts (hr r List.mem_cons_self) _ _)
    | cons q qs =>
      obtain ⟨hr₁, hrs⟩ := List.forall_mem_cons.mp hr
      obtain ⟨hq₁, hqs⟩ := List.forall_mem_cons.mp hq
      rw [List.map_cons, List.map_cons, Bytes.unlines_cons, Bytes.unlines_cons, List.append_assoc,
        List.append_assoc, List.cons_append, List.cons_append] at h
      obtain ⟨hentry, hrest⟩ := append_cons_inj_first (newline_notMem_entry hr₁.newline_notMem)
        (newline_notMem_entry hq₁.newline_notMem) h
      rw [entry_inj hr₁ hq₁ hentry, ih hrs hqs hrest]

/-- What has been written after the banner, each outcome, and the summary of all. -/
def transcript (rs : List (Candidate × Outcome)) : Bytes :=
  let begun := (print .plain (.empty none) banner).1
  let told := rs.foldl (fun out r => (print .plain out (outcome r.1 r.2)).1) begun
  (print .plain told (summary (Summary.empty.recordAll rs))).1.written

lemma print_unlimited (bs : Bytes) (ps : List Piece) :
    (print .plain ⟨bs, none⟩ ps).1 = ⟨bs ++ render .plain ps, none⟩ := by
  rw [print_eq _ (Sink.takes_of_unlimited rfl _)]
  rfl

lemma transcript_eq (rs : List (Candidate × Outcome)) : transcript rs = unlines (entries rs) := by
  have told (bs : Bytes) :
      rs.foldl (fun out r => (print .plain out (outcome r.1 r.2)).1) ⟨bs, none⟩ =
        ⟨bs ++ unlines (rs.map entry), none⟩ := by
    induction rs generalizing bs with
    | nil => simp
    | cons r rs ih =>
      rw [List.foldl_cons, print_unlimited, ih, render_outcome, List.map_cons, Bytes.unlines_cons]
      simp
  rw [transcript, Sink.empty, print_unlimited, told, print_unlimited, render_banner, render_summary,
    entries, Bytes.unlines_append, Bytes.unlines_append]
  rfl

/-- A log is read back in one way only. The paths can read like anything, as long as they are text
without newlines. -/
theorem transcript_inj {rs qs : List (Candidate × Outcome)} (hr : ∀ r ∈ rs, Legible r.1.path)
    (hq : ∀ q ∈ qs, Legible q.1.path) : transcript rs = transcript qs ↔ rs = qs := by
  refine ⟨fun h => ?_, congrArg transcript⟩
  rw [transcript_eq, transcript_eq, entries, entries, Bytes.unlines_append, Bytes.unlines_append,
    Bytes.unlines_append, Bytes.unlines_append, List.append_assoc, List.append_assoc] at h
  exact entries_inj hr hq (List.append_cancel_left h)

/-- Paths that read like other entries. -/
theorem lookalike_transcripts :
    let rs : List (Candidate × Outcome) :=
      [(⟨.ofString "a (exit code: 3)"⟩, .failed 4), (⟨.ofString "✗ FAIL: b"⟩, .passed)]
    let qs : List (Candidate × Outcome) :=
      [(⟨.ofString "a"⟩, .failed 3), (⟨.ofString "b (excluded by name)"⟩, .skipped .byPattern)]
    transcript rs ≠ transcript qs := by
  intro rs qs
  have legible (s : String) (h : '\n' ∉ s.toList) : Legible (.ofString s) := ⟨s, rfl, h⟩
  have hr : ∀ r ∈ rs, Legible r.1.path :=
    List.forall_mem_cons.mpr ⟨legible _ (by decide), List.forall_mem_singleton.mpr
      (legible _ (by decide))⟩
  have hq : ∀ q ∈ qs, Legible q.1.path :=
    List.forall_mem_cons.mpr ⟨legible _ (by decide), List.forall_mem_singleton.mpr
      (legible _ (by decide))⟩
  exact mt (transcript_inj hr hq).mp (by decide)

end Report

/-- A run that ends with a summary has written the log of its results. -/
lemma Finished.transcript {σ : Type} {h : Host σ} {sane : σ → Prop} {cfg : Config} {s : Session σ}
    {ts : List Turn} {sum : Summary} (f : Finished h sane .plain cfg s ts sum) :
    (after (Harness.run h .plain cfg) s).out.written = Report.transcript (ts.map Turn.result) := by
  rw [f.written, f.counted, wholeLog_plain, Report.transcript_eq]

end ExampleSuite
