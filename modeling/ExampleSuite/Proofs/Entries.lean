import ExampleSuite.Proofs.Encoding
import ExampleSuite.Proofs.Filling
import ExampleSuite.Proofs.Paths

/-!
The plain run log as a list of entries.

Each part of the log that ends in a newline is an entry: two of the banner, one for each outcome,
and those of the summary. An entry is a line of the log unless the path that it shows has a newline
in it.
-/

namespace ExampleSuite

namespace Bytes

def newline : UInt8 := 0x0A

/-- Texts put below one another, each with a newline at its end. -/
def unlines (ls : List Bytes) : Bytes := ls.flatMap (· ++ [newline])

@[simp] lemma unlines_nil : unlines [] = [] := rfl

@[simp] lemma unlines_cons (l : Bytes) (ls : List Bytes) :
    unlines (l :: ls) = l ++ newline :: unlines ls := by
  simp [unlines]

@[simp] lemma unlines_append (ls ms : List Bytes) :
    unlines (ls ++ ms) = unlines ls ++ unlines ms := List.flatMap_append

/-- The lines of texts put below one another are those of each, and an empty rest. -/
lemma splitOn_unlines (ls : List Bytes) :
    splitOn newline (unlines ls) = ls.flatMap (splitOn newline) ++ [[]] := by
  induction ls with
  | nil => rfl
  | cons l ls ih => rw [unlines_cons, splitOn_append_cons, ih, List.flatMap_cons, List.append_assoc]

lemma mem_toList_of_newline {s : String} (h : newline ∈ ofString s) : '\n' ∈ s.toList := by
  obtain ⟨c, hc, hn⟩ := List.mem_flatMap.mp h
  obtain rfl := (Utf8.encoded_encodeChar c).ascii (by decide) hn
  exact hc

end Bytes

/-! ### Numbers -/

lemma isDigit_of_mem_toString {n : Nat} {c : Char} (h : c ∈ (toString n).toList) : c.isDigit := by
  rw [Nat.toString_eq_ofList_toDigits, String.toList_ofList] at h
  exact Nat.isDigit_of_mem_toDigits (by decide) (by decide) h

/-- An integer is written with digits, and a minus in front if it is negative. -/
lemma isDigit_or_of_mem_toString {n : Int} {c : Char} (h : c ∈ (toString n).toList) :
    c = '-' ∨ c.isDigit := by
  cases n with
  | ofNat m => exact .inr (isDigit_of_mem_toString (n := m) h)
  | negSucc m =>
    rw [show toString (Int.negSucc m) = "-" ++ toString (m + 1) from rfl, String.toList_append,
      List.mem_append] at h
    exact h.imp List.mem_singleton.mp isDigit_of_mem_toString

namespace Report

open Bytes (newline unlines)

/-! ### Entries -/

def shown (p : Path) : Bytes := Utf8.encode (Utf8.lossy p)

/-- What the entry for an outcome begins with. -/
def label (o : Outcome) : String := (marker o).2 ++ ": "

/-- The entry for an outcome. -/
def entry (r : Candidate × Outcome) : Bytes :=
  Bytes.ofString (label r.2) ++ shown r.1.path ++ Bytes.ofString (remark r.2)

/-- The entry for a failure in the summary. -/
def bullet (p : Path) : Bytes := Bytes.ofString "  - " ++ shown p

def opening : List Bytes := [Bytes.ofString "=== Testing All Franz Examples ===", []]

def count (name : String) (n : Nat) : Bytes := .ofString s!"{name}: {n}"

def counts (y : Summary) : List Bytes :=
  [count "Passed" y.passed, count "Failed" y.failed, count "Skipped" y.skipped,
    count "Total" y.total]

/-- What the summary says of failures. -/
def findings (y : Summary) : List Bytes :=
  if y.hasFailures then Bytes.ofString "Failed files:" :: y.failing.map bullet
  else [Bytes.ofString "✅ All tests passed!"]

/-- The entries of the summary before its verdict. -/
def figures (y : Summary) : List Bytes :=
  [[], Bytes.ofString "=== Summary ==="] ++ counts y ++ [[]]

def failedFiles (ps : List Path) : List Bytes := Bytes.ofString "Failed files:" :: ps.map bullet

/-- The line that says that nothing failed. -/
def allPassed (st : Style) : Bytes := render st (mark .green "✅ All tests passed!")

def closing (y : Summary) : List Bytes :=
  [[], Bytes.ofString "=== Summary ==="] ++ counts y ++ [[]] ++ findings y

/-- All entries of the log for some outcomes. -/
def entries (rs : List (Candidate × Outcome)) : List Bytes :=
  opening ++ rs.map entry ++ closing (Summary.empty.recordAll rs)

lemma ofString_newline : Bytes.ofString "\n" = [newline] := by decide

section

variable {st : Style}

@[simp] lemma Piece.render_text (s : String) : Piece.render st (.text s) = Bytes.ofString s := by
  cases st <;> rfl

@[simp] lemma Piece.render_path (p : Path) : Piece.render st (.path p) = shown p := by
  cases st <;> rfl

/-- A text that ends in a newline is an entry of its own. -/
lemma render_text (t u : String) (h : u = t ++ "\n") (ps : List Piece) :
    render st (.text u :: ps) = Bytes.ofString t ++ newline :: render st ps := by
  rw [h, render, List.flatMap_cons, Piece.render_text, Bytes.ofString_append, ofString_newline,
    List.append_assoc]
  rfl

lemma render_counter (name : String) (n : Nat) (ps : List Piece) :
    render st (counter name n :: ps) = count name n ++ newline :: render st ps :=
  render_text s!"{name}: {n}" _ rfl ps

@[simp] lemma render_nil : render st [] = [] := rfl

@[simp] lemma ofString_empty : Bytes.ofString "" = [] := rfl

lemma render_banner : render st banner = unlines opening := by
  rw [banner, render_text "=== Testing All Franz Examples ===" _ (by decide),
    render_text "" _ (by decide), opening, Bytes.unlines_cons, Bytes.unlines_cons]
  rfl

lemma render_bullets (ps : List Path) :
    render st (ps.flatMap fun p => [.text "  - ", .path p, .text "\n"]) =
      unlines (ps.map bullet) := by
  induction ps with
  | nil => rfl
  | cons p ps ih =>
    rw [List.flatMap_cons, render_append, ih, List.map_cons, Bytes.unlines_cons]
    simp [render, bullet, ofString_newline]

/-- The figures are the same in each style. -/
lemma render_figures (y : Summary) :
    render st (summary y) = unlines (figures y) ++ render st (verdict y) := by
  rw [summary, render_append]
  refine congrArg (· ++ _) ?_
  rw [render_text "" _ (by decide), render_text "=== Summary ===" _ (by decide), render_counter,
    render_counter, render_counter, render_counter, render_text "" _ (by decide)]
  simp [figures, counts]

/-- The verdict lists the failures, or says that there are none. -/
lemma render_verdict (y : Summary) :
    render st (verdict y) =
      unlines (if y.hasFailures then failedFiles y.failing else [allPassed st]) := by
  rw [verdict]
  split_ifs
  · rw [render_text "Failed files:" _ (by decide), render_bullets, failedFiles, Bytes.unlines_cons]
  · rw [render_append, render_text "" _ (by decide), allPassed, Bytes.unlines_cons]
    rfl

end

lemma render_outcome (r : Candidate × Outcome) :
    render .plain (outcome r.1 r.2) = entry r ++ [newline] := by
  simp [render, outcome, mark, Piece.render, entry, label, shown, Bytes.ofString_append,
    ofString_newline]

lemma render_summary (y : Summary) : render .plain (summary y) = unlines (closing y) := by
  have hverdict : render .plain (verdict y) = unlines (findings y) := by
    rw [render_verdict, findings]
    split_ifs
    · rfl
    · exact congrArg (fun l => unlines [l]) (List.append_nil _)
  rw [render_figures, hverdict, ← Bytes.unlines_append]
  rfl

/-! ### Newlines -/

lemma newline_notMem_shown {p : Path} (h : newline ∉ p) : newline ∉ shown p :=
  fun hn => h (Utf8.mem_of_mem_shown (by decide) hn)

lemma newline_notMem_remark (o : Outcome) : newline ∉ Bytes.ofString (remark o) := by
  intro h
  have hmem := Bytes.mem_toList_of_newline h
  cases o with
  | failed n =>
    simp only [remark, String.toList_append, List.mem_append] at hmem
    obtain (h | h) | h := hmem
    · exact absurd h (by decide)
    · exact absurd (isDigit_or_of_mem_toString h) (by decide)
    · exact absurd h (by decide)
  | skipped r => cases r <;> exact absurd hmem (by decide)
  | _ => exact absurd hmem (by decide)

lemma newline_notMem_entry {r : Candidate × Outcome} (h : newline ∉ r.1.path) :
    newline ∉ entry r := by
  have hlabel : newline ∉ Bytes.ofString (label r.2) := by
    cases r.2 <;> simp only [label, marker] <;> decide
  simp only [entry, List.mem_append, not_or]
  exact ⟨⟨hlabel, newline_notMem_shown h⟩, newline_notMem_remark r.2⟩

lemma newline_notMem_count (name : String) (h : '\n' ∉ name.toList) (n : Nat) :
    newline ∉ count name n := by
  intro hn
  have hmem := Bytes.mem_toList_of_newline hn
  simp only [String.toList_append, List.mem_append] at hmem
  obtain (hm | hm) | hm := hmem
  · exact h hm
  · exact absurd hm (by decide)
  · exact absurd (isDigit_of_mem_toString hm) (by decide)

lemma newline_notMem_closing {y : Summary} (h : ∀ p ∈ y.failing, newline ∉ p) :
    ∀ e ∈ closing y, newline ∉ e := by
  have hcounts : ∀ e ∈ counts y, newline ∉ e := by
    simp only [counts, List.mem_cons, List.not_mem_nil, or_false, forall_eq_or_imp, forall_eq]
    exact ⟨newline_notMem_count _ (by decide) _, newline_notMem_count _ (by decide) _,
      newline_notMem_count _ (by decide) _, newline_notMem_count _ (by decide) _⟩
  have hfindings : ∀ e ∈ findings y, newline ∉ e := by
    rw [findings]
    split_ifs
    · refine List.forall_mem_cons.mpr ⟨by decide, fun e he => ?_⟩
      obtain ⟨p, hp, rfl⟩ := List.mem_map.mp he
      rw [bullet, List.mem_append, not_or]
      exact ⟨by decide, newline_notMem_shown (h p hp)⟩
    · decide
  rw [closing, List.forall_mem_append, List.forall_mem_append, List.forall_mem_append]
  exact ⟨⟨⟨by decide, hcounts⟩, by decide⟩, hfindings⟩

lemma exists_of_mem_failing {rs : List (Candidate × Outcome)} {p : Path}
    (hp : p ∈ (Summary.empty.recordAll rs).failing) : ∃ r ∈ rs, r.1.path = p := by
  rw [Summary.recordAll_eq] at hp
  obtain ⟨r, hr, rfl⟩ := List.mem_map.mp hp
  exact ⟨r, List.mem_of_mem_filter hr, rfl⟩

/-- Without newlines in the paths every entry is a line. -/
lemma newline_notMem_entries {rs : List (Candidate × Outcome)} (h : ∀ r ∈ rs, newline ∉ r.1.path) :
    ∀ e ∈ entries rs, newline ∉ e := by
  have hentry : ∀ e ∈ rs.map entry, newline ∉ e := by
    intro e he
    obtain ⟨r, hr, rfl⟩ := List.mem_map.mp he
    exact newline_notMem_entry (h r hr)
  have hclosing : ∀ e ∈ closing (Summary.empty.recordAll rs), newline ∉ e := by
    refine newline_notMem_closing fun p hp => ?_
    obtain ⟨r, hr, rfl⟩ := exists_of_mem_failing hp
    exact h r hr
  rw [entries, List.forall_mem_append, List.forall_mem_append]
  exact ⟨⟨by decide, hentry⟩, hclosing⟩

end Report

/-- The plain log is its entries put below one another. -/
lemma wholeLog_plain (ts : List Turn) :
    wholeLog .plain ts (Summary.empty.recordAll (ts.map Turn.result)) =
      Bytes.unlines (Report.entries (ts.map Turn.result)) := by
  have hlines : ts.flatMap (Turn.line .plain) =
      Bytes.unlines ((ts.map Turn.result).map Report.entry) := by
    rw [Bytes.unlines, List.flatMap_map, List.flatMap_map]
    exact List.flatMap_congr fun x _ => Report.render_outcome x.result
  rw [wholeLog, hlines, Report.render_banner, Report.render_summary, Report.entries,
    Bytes.unlines_append, Bytes.unlines_append]

end ExampleSuite
