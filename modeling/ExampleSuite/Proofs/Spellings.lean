import ExampleSuite.Proofs.Lines
import ExampleSuite.Proofs.Quoting

/-!
Rule files for names.

Two lists of names can be written as entries at any column or in brackets, with or without quotation
marks, and with either list first. Empty lines and comments may stand between the lines. All these
texts have the same rules, and a name is kept as it is written, whatever else it looks like.
-/

namespace ExampleSuite.RuleFile

open Yaml.Scan (Ends Form Inked Line Named Remains entryLine keyLine sectionLines)

/-! ### Texts -/

def spaces (k : ℕ) : String := String.ofList (List.replicate k ' ')

/-- A name as it stands or between double quotes. -/
def item (plain : Bool) (s : String) : String := if plain then s else "\"" ++ s ++ "\""

/-- The lines of a key and its list. -/
def sectionTexts (form : Form) (plain : Bool) (f : Field) (ss : List String) : List String :=
  match form with
  | .block k => (f.name ++ ":") :: ss.map fun s => spaces k ++ "- " ++ item plain s
  | .flow => [f.name ++ ": " ++ sequence (item plain) ss]

/-- A line that says nothing. -/
inductive Idle : String → Prop where
  | blank (k : ℕ) : Idle (spaces k)
  | comment (k : ℕ) {s : String} (printed : ∀ c ∈ s.toList, 0x20 ≤ c.toNat ∧ c.toNat ≤ 0x7E) :
      Idle (spaces k ++ "#" ++ s)

/-- Lines with idle ones anywhere between them. -/
inductive Padded : List String → List String → Prop where
  | nil : Padded [] []
  | line {ls ts : List String} (l : String) (rest : Padded ls ts) : Padded (l :: ls) (l :: ts)
  | idle {t : String} {ls ts : List String} (idle : Idle t) (rest : Padded ls ts) :
      Padded ls (t :: ts)

section spellings

variable {form : Form} {plain : Bool} {f : Field} {ss ls ts : List String} {ms : List Line}
  {r : List Char}

lemma toList_spaces (k : ℕ) : (spaces k).toList = List.replicate k ' ' := by simp [spaces]

lemma toList_item (s : String) : (item plain s).toList = Yaml.Scan.written plain s.toList := by
  cases plain <;> simp [item, Yaml.Scan.written]

def lineText (l : Line) : List Char := List.replicate l.indent ' ' ++ l.body

lemma toList_sectionTexts : (sectionTexts form plain f ss).map String.toList =
    (sectionLines form plain f ss).map lineText := by
  cases form with
  | block k =>
    simp [sectionTexts, sectionLines, lineText, keyLine, entryLine, toList_spaces, toList_item,
      Function.comp_def]
  | flow =>
    simp [sectionTexts, sectionLines, lineText, keyLine, toList_sequence, toList_item]

lemma inked_sectionLines (l : Line) (hl : l ∈ sectionLines form plain f ss) :
    ∃ x b, l.body = x :: b ∧ Inked x := by
  have hkey (more : List Char) : ∃ x b, (keyLine f more).body = x :: b ∧ Inked x := by
    cases f <;> exact ⟨_, _, rfl, by decide⟩
  cases form with
  | block k =>
    rcases List.mem_cons.mp hl with rfl | hl
    · exact hkey []
    · obtain ⟨s, -, rfl⟩ := List.mem_map.mp hl
      exact ⟨_, _, rfl, by decide⟩
  | flow =>
    obtain rfl := List.mem_singleton.mp hl
    exact hkey _

/-! ### Characters -/

lemma printed_spec {c : Char} (hc : 0x20 ≤ c.toNat ∧ c.toNat ≤ 0x7E) :
    Yaml.isPrintable c ∧ Yaml.isBreak c = false :=
  Yaml.forall_ascii (P := fun c => 0x20 ≤ c.toNat ∧ c.toNat ≤ 0x7E →
    Yaml.isPrintable c ∧ Yaml.isBreak c = false) (by decide +kernel) (by omega) hc

lemma printed_spaces (k : ℕ) : Printed (spaces k) := by
  intro c hc
  rw [toList_spaces] at hc
  rw [List.eq_of_mem_replicate hc]
  decide

lemma printed_item {s : String} (hs : Named s.toList) : Printed (item plain s) := by
  have hbare : Printed s := fun c hc => (hs.bare c hc).spec.1
  rw [item]
  split_ifs
  · exact hbare
  · rw [printed_append, printed_append]
    exact ⟨⟨by decide, hbare⟩, by decide⟩

lemma printed_sectionTexts (hss : ∀ s ∈ ss, Named s.toList) :
    ∀ t ∈ sectionTexts form plain f ss, Printed t := by
  have hname : Printed f.name := by cases f <;> decide
  cases form with
  | block k =>
    refine List.forall_mem_cons.mpr ⟨(printed_append _ _).mpr ⟨hname, by decide⟩, ?_⟩
    rw [List.forall_mem_map]
    intro s hs
    rw [printed_append, printed_append]
    exact ⟨⟨printed_spaces k, by decide⟩, printed_item (hss s hs)⟩
  | flow =>
    rw [sectionTexts, List.forall_mem_singleton, printed_append, printed_append]
    exact ⟨⟨hname, by decide⟩, printed_sequence fun s hs => printed_item (hss s hs)⟩

lemma Idle.printed {t : String} (h : Idle t) : Printed t := by
  cases h with
  | blank k => exact printed_spaces k
  | comment k printed =>
    rw [printed_append, printed_append]
    exact ⟨⟨printed_spaces k, by decide⟩, fun c hc => (printed_spec (printed c hc)).1⟩

lemma Padded.printed (h : Padded ls ts) (hls : ∀ l ∈ ls, Printed l) : ∀ t ∈ ts, Printed t := by
  induction h with
  | nil => nofun
  | line l rest ih =>
    obtain ⟨hl, hls⟩ := List.forall_mem_cons.mp hls
    exact List.forall_mem_cons.mpr ⟨hl, ih hls⟩
  | idle idle rest ih => exact List.forall_mem_cons.mpr ⟨idle.printed, ih hls⟩

/-! ### What remains of them -/

/-- Lines behind another one. -/
def behind (ts : List String) : List Char := ts.flatMap fun t => '\n' :: t.toList

lemma ends_behind (ts : List String) : Ends (behind ts) := by
  cases ts with
  | nil => exact .inl rfl
  | cons t ts => exact .inr rfl

lemma toList_intercalate_newline (t : String) (ts : List String) :
    ("\n".intercalate (t :: ts)).toList = t.toList ++ behind ts := by
  induction ts generalizing t with
  | nil => simp [behind]
  | cons u ts ih =>
    rw [String.intercalate_cons_cons, String.toList_append, String.toList_append, ih]
    simp [behind]

lemma Remains.spaces {k c : ℕ} (h : Remains ms r (c + k)) :
    Remains ms (List.replicate k ' ' ++ r) c := by
  induction k generalizing c with
  | zero => exact h
  | succ k ih => exact .space (ih (by rwa [Nat.add_assoc, Nat.add_comm 1]))

lemma Padded.remains (h : Padded ls ts) (hms : ls.map String.toList = ms.map lineText)
    (hink : ∀ l ∈ ms, ∃ x b, l.body = x :: b ∧ Inked x) (c : ℕ) : Remains ms (behind ts) c := by
  induction h generalizing ms c with
  | nil =>
    obtain rfl : ms = [] := by simpa using hms.symm
    exact .fin c
  | @line ls ts t rest ih =>
    obtain ⟨⟨k, b⟩, ms, rfl, ht, hrest⟩ := List.map_eq_cons_iff.mp hms.symm
    obtain ⟨⟨x, b, rfl, hx⟩, hinks⟩ := List.forall_mem_cons.mp hink
    have hbehind : behind (t :: ts) = '\n' :: (List.replicate k ' ' ++ (x :: b ++ behind ts)) := by
      simp [behind, ← ht, lineText]
    rw [hbehind]
    refine .newline (Remains.spaces ?_)
    rw [Nat.zero_add]
    exact .line hx (ends_behind ts) (ih hrest.symm hinks)
  | @idle t ls ts idle rest ih =>
    cases idle with
    | blank k =>
      have hbehind : behind (spaces k :: ts) = '\n' :: (List.replicate k ' ' ++ behind ts) := by
        simp [behind, toList_spaces]
      rw [hbehind]
      exact .newline (Remains.spaces (ih hms hink _))
    | @comment k s printed =>
      have hbehind : behind ((spaces k ++ "#" ++ s) :: ts) =
          '\n' :: (List.replicate k ' ' ++ '#' :: (s.toList ++ behind ts)) := by
        simp [behind, toList_spaces]
      rw [hbehind]
      exact .newline (Remains.spaces (.comment (fun x hx => (printed_spec (printed x hx)).2)
        (ends_behind ts) (ih hms hink)))

lemma Remains.of_newline {c : ℕ} (h : Remains ms ('\n' :: r) c) : Remains ms r 0 := by
  generalize hr : '\n' :: r = cs at h
  cases h with
  | fin => exact nomatch hr
  | newline rest =>
    obtain rfl := List.tail_eq_of_cons_eq hr
    exact rest
  | space => exact absurd (List.cons.inj hr).1 (by decide)
  | comment => exact absurd (List.cons.inj hr).1 (by decide)
  | line inked =>
    obtain rfl := (List.cons.inj hr).1
    exact absurd inked (by decide)

/-- The rules of two keys and their lists, with idle lines anywhere. -/
lemma parse_padded {form' : Form} {plain' : Bool} {g : Field} {us : List String}
    (hss : ∀ s ∈ ss, Named s.toList) (hus : ∀ s ∈ us, Named s.toList) (hfg : f ≠ g)
    (h : Padded (sectionTexts form plain f ss ++ sectionTexts form' plain' g us) ts) :
    parse ("\n".intercalate ts) = .ok (rules [(f, ss), (g, us)]) := by
  have hprint : Printed ("\n".intercalate ts) :=
    printed_intercalate (by decide) (h.printed (List.forall_mem_append.mpr
      ⟨printed_sectionTexts hss, printed_sectionTexts hus⟩))
  have hlines : (sectionTexts form plain f ss ++ sectionTexts form' plain' g us).map
      String.toList = (sectionLines form plain f ss ++ sectionLines form' plain' g us).map
        lineText := by
    simp [toList_sectionTexts]
  have hbehind := h.remains hlines (List.forall_mem_append.mpr
    ⟨inked_sectionLines, inked_sectionLines⟩) 0
  obtain ⟨t, ts, rfl⟩ : ∃ t us, ts = t :: us := List.exists_cons_of_ne_nil (by
    rintro rfl
    cases form <;> exact nomatch h)
  have hrem : Remains (sectionLines form plain f ss ++ sectionLines form' plain' g us)
      ("\n".intercalate (t :: ts)).toList 0 := by
    rw [toList_intercalate_newline]
    exact Remains.of_newline hbehind
  obtain ⟨toks, ks, htoks, hks, hkinds⟩ :=
    Yaml.Scan.tokens_sections (List.all_eq_true.mpr hprint) hss hus hrem
  exact Yaml.Parse.parse_of_block htoks hks hkinds (by simpa using hfg)

/-- However two lists of names are written, their rules are the names. -/
theorem parse_spellings {files patterns lines : List String}
    (hfiles : ∀ s ∈ files, Named s.toList) (hpatterns : ∀ s ∈ patterns, Named s.toList)
    (form : Field → Form) (plain : Field → Bool) (swapped : Bool)
    (hlines : Padded
      (if swapped then sectionTexts (form .patterns) (plain .patterns) .patterns patterns ++
        sectionTexts (form .files) (plain .files) .files files
      else sectionTexts (form .files) (plain .files) .files files ++
        sectionTexts (form .patterns) (plain .patterns) .patterns patterns) lines) :
    parse ("\n".intercalate lines) = .ok ⟨files.eraseDups, patterns.eraseDups⟩ := by
  cases swapped with
  | false => exact parse_padded hfiles hpatterns (by decide) hlines
  | true => exact parse_padded hpatterns hfiles (by decide) hlines

/-- Names that look like nothing and like a number, with an empty line, a comment and a break at the
end. -/
theorem parse_spellings_commented :
    let files := ["null", "1.10", "null"]
    let form : Field → Form := fun f => match f with
      | .files => .block 2
      | .patterns => .flow
    let plain : Field → Bool := fun f => f == .files
    let lines := ["skip_patterns: [\"a/b\"]", "", "skip_files:", "  - null", "# one more",
      "  - 1.10", "  - null", ""]
    (∀ s ∈ files, Named s.toList) ∧ (∀ s ∈ ["a/b"], Named s.toList) ∧
      Padded (sectionTexts (form .patterns) (plain .patterns) .patterns ["a/b"] ++
        sectionTexts (form .files) (plain .files) .files files) lines ∧
      parse ("\n".intercalate lines) = .ok ⟨["null", "1.10"], ["a/b"]⟩ := by
  intro files form plain lines
  have hfiles : ∀ s ∈ files, Named s.toList := by decide
  have hpatterns : ∀ s ∈ ["a/b"], Named s.toList := by decide
  have htexts : sectionTexts (form .patterns) (plain .patterns) .patterns ["a/b"] ++
      sectionTexts (form .files) (plain .files) .files files =
        ["skip_patterns: [\"a/b\"]", "skip_files:", "  - null", "  - 1.10", "  - null"] := by
    decide +kernel
  have hcomment : Idle "# one more" :=
    Idle.comment 0 (s := " one more") (List.forall_iff_forall_mem.mp (by decide))
  have hlines : Padded (sectionTexts (form .patterns) (plain .patterns) .patterns ["a/b"] ++
      sectionTexts (form .files) (plain .files) .files files) lines := by
    rw [htexts]
    exact .line _ (.idle (.blank 0) (.line _ (.line _ (.idle hcomment (.line _ (.line _
      (.idle (.blank 0) .nil)))))))
  exact ⟨hfiles, hpatterns, hlines, parse_spellings hfiles hpatterns form plain true hlines⟩

end spellings

end ExampleSuite.RuleFile
