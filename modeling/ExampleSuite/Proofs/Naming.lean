import ExampleSuite.Proofs.Encoding
import ExampleSuite.Proofs.Paths
import ExampleSuite.Proofs.Rules

/-!
The names of examples within their paths.

A slash is never part of a longer character, not even of one that breaks off. So a path may be cut
at its slashes before or after it is read as text, and the name of an example stands in the text of
its path.
-/

namespace ExampleSuite

namespace Utf8

/-! ### Texts cut at a byte of ASCII -/

variable {a b lo hi : UInt8} {n : Nat}

lemma le_of_lead (h : lead b = some (n, lo, hi)) : 0x80 ≤ lo := by
  unfold lead at h
  split_ifs at h <;> cases h <;> decide

/-- A byte of ASCII ends what came before it, whole or not. -/
lemma parts_append_ascii (ha : a < 0x80) (p r : Bytes) :
    parts (p ++ a :: r) = parts p ++ some (Char.ofNat a.toNat) :: parts r := by
  have not_second {b lo hi : UInt8} {n : Nat} (h : lead b = some (n, lo, hi)) :
      ¬ (lo ≤ a ∧ a ≤ hi) := fun hab =>
    absurd (UInt8.le_trans (le_of_lead h) hab.1) (UInt8.not_le.mpr ha)
  have not_tail : isTail a = false := by simp [isTail, UInt8.not_le.mpr ha]
  have alone := parts_ascii ha r
  fun_induction parts p
  case case1 => exact alone
  case case2 hb ih => rw [List.cons_append, parts_ascii hb, ih, List.cons_append]
  -- A character that breaks off at the end of `p` is not continued by a byte of ASCII.
  case case4 hb _ _ _ hl =>
    rw [List.cons_append, parts]
    simp [hb, hl, not_second hl, alone]
  case case6 | case8 =>
    rw [List.cons_append, parts]
    simp [*]
  all_goals
    simp only [List.cons_append] at *
    rw [parts]
    simp [*]

lemma lossy_append_slash (p r : Bytes) :
    lossy (p ++ Path.slash :: r) = lossy p ++ '/' :: lossy r := by
  rw [lossy, parts_append_ascii (by decide), List.map_append, List.map_cons]
  rfl

lemma slash_notMem_lossy {p : Bytes} (h : Path.slash ∉ p) : '/' ∉ lossy p := fun hs =>
  h (mem_of_mem_shown (by decide) (List.mem_flatMap.mpr ⟨'/', hs, by decide⟩))

lemma lossy_intercalate (ps : List Bytes) :
    lossy ([Path.slash].intercalate ps) = ['/'].intercalate (ps.map lossy) := by
  induction ps with
  | nil => rfl
  | cons p ps ih =>
    cases ps with
    | nil => simp
    | cons q ps =>
      rw [List.map_cons] at ih
      rw [List.intercalate_cons_cons, List.map_cons, List.map_cons, List.intercalate_cons_cons,
        ← ih, List.append_assoc, List.append_assoc]
      exact lossy_append_slash p _

end Utf8

namespace Bytes

lemma splitOn_eq (sep : UInt8) (p : Bytes) : splitOn sep p = List.splitOn sep p := by
  induction p with
  | nil => rfl
  | cons b p ih =>
    rw [splitOn, List.splitOn, List.splitOnP_cons_eq_if_modifyHead, ← List.splitOn, ← ih]
    by_cases hb : b = sep
    · simp [hb]
    · cases hp : splitOn sep p with
      | nil => exact absurd hp (splitOn_ne_nil sep p)
      | cons q qs => simp [hb]

/-- The parts of a path, each read as text, are the parts of the path that is read as text. -/
theorem map_lossy_splitOn (p : Bytes) :
    (splitOn Path.slash p).map Utf8.lossy = (Utf8.lossy p).splitOn '/' := by
  have hp : Utf8.lossy p = ['/'].intercalate ((splitOn Path.slash p).map Utf8.lossy) := by
    rw [← Utf8.lossy_intercalate, splitOn_eq, List.intercalate_splitOn]
  rw [hp, List.splitOn_intercalate]
  · intro l hl
    obtain ⟨s, hs, rfl⟩ := List.mem_map.mp hl
    exact Utf8.slash_notMem_lossy (notMem_of_mem_splitOn hs)
  · simpa using splitOn_ne_nil Path.slash p

end Bytes

lemma infix_intercalate {α : Type} {sep l : List α} {ls : List (List α)} (h : l ∈ ls) :
    l <:+: sep.intercalate ls := by
  induction ls with
  | nil => cases h
  | cons m ls ih =>
    cases ls with
    | nil =>
      obtain rfl := List.mem_singleton.mp h
      simp
    | cons k ls =>
      rw [List.intercalate_cons_cons]
      rcases List.mem_cons.mp h with rfl | h
      · rw [List.append_assoc]
        exact (List.prefix_append l _).isInfix
      · exact (ih h).trans (List.suffix_append _ _).isInfix

/-! ### The last part of a path -/

namespace Path

/-- The last part of a path that is neither empty nor a dot. -/
def EndsIn (p : Path) (n : Bytes) : Prop :=
  ∃ us vs, Bytes.splitOn slash p = us ++ n :: vs ∧ n ≠ [] ∧ n ≠ here ∧ ∀ v ∈ vs, v = [] ∨ v = here

variable {p : Path} {n : Bytes}

lemma getLast?_steps_eq_some_iff : (steps p).getLast? = some n ↔ p.EndsIn n := by
  rw [steps, List.getLast?_filter, List.find?_eq_some_iff_append]
  simp only [not_step_iff, Bool.and_eq_true, bne_iff_ne]
  constructor
  · rintro ⟨⟨hne, hhere⟩, vs, us, hp, hvs⟩
    refine ⟨us.reverse, vs.reverse, ?_, hne, hhere, fun v hv => hvs v (List.mem_reverse.mp hv)⟩
    rw [← List.reverse_inj, hp]
    simp
  · rintro ⟨us, vs, hp, hne, hhere, hvs⟩
    refine ⟨⟨hne, hhere⟩, vs.reverse, us.reverse, ?_, fun v hv => hvs v (List.mem_reverse.mp hv)⟩
    rw [hp]
    simp

lemma fileName_eq_some_iff : fileName p = some n ↔ p.EndsIn n ∧ n ≠ up := by
  rw [← getLast?_steps_eq_some_iff, fileName]
  cases (steps p).getLast? with
  | none => simp
  | some m =>
    dsimp only
    split_ifs with hm
    · simp only [hm, Option.some.injEq, false_iff]
      exact fun h => h.2 h.1.symm
    · simp only [Option.some.injEq, iff_self_and]
      exact fun h => h ▸ hm

lemma EndsIn.mem (h : p.EndsIn n) : n ∈ Bytes.splitOn slash p := by
  obtain ⟨us, vs, hp, -⟩ := h
  rw [hp]
  exact List.mem_append_right us List.mem_cons_self

end Path

/-! ### The name of an example -/

namespace Candidate

variable (c : Candidate)

lemma basename_eq {n : Bytes} (h : c.path.EndsIn n) (hn : n ≠ Path.up) :
    c.basename = Bytes.display n := by
  rw [basename, Path.fileName_eq_some_iff.mpr ⟨h, hn⟩, Option.getD_some]

lemma basename_eq_empty (h : ∀ n, c.path.EndsIn n → n = Path.up) : c.basename = "" := by
  have hnone : Path.fileName c.path = none := Option.eq_none_iff_forall_ne_some.mpr fun n hn =>
    (Path.fileName_eq_some_iff.mp hn).2 (h n (Path.fileName_eq_some_iff.mp hn).1)
  rw [basename, hnone]
  rfl

/-- The name of an example is empty or a part of its path as shown, cut at slashes. -/
lemma basename_cases : c.basename = "" ∨ c.basename.toList ∈ c.text.toList.splitOn '/' := by
  cases hn : Path.fileName c.path with
  | none => exact .inl (by rw [basename, hn]; rfl)
  | some n =>
    right
    rw [basename, hn, text, Bytes.display, Bytes.display, String.toList_ofList,
      String.toList_ofList, ← Bytes.map_lossy_splitOn]
    exact List.mem_map_of_mem (Path.fileName_eq_some_iff.mp hn).1.mem

lemma slash_notMem_basename : '/' ∉ c.basename.toList := by
  obtain h | h := c.basename_cases
  · simp [h]
  · rw [text, Bytes.display, String.toList_ofList, ← Bytes.map_lossy_splitOn] at h
    obtain ⟨s, hs, hsn⟩ := List.mem_map.mp h
    rw [← hsn]
    exact Utf8.slash_notMem_lossy (Bytes.notMem_of_mem_splitOn hs)

lemma basename_infix_text : c.basename.toList <:+: c.text.toList := by
  obtain h | h := c.basename_cases
  · simp [h]
  · have hparts : ['/'].intercalate (c.text.toList.splitOn '/') = c.text.toList :=
      List.intercalate_splitOn '/'
    rw [← hparts]
    exact infix_intercalate h

end Candidate

/-! ### Names taken as texts -/

namespace Exclusions

/-- The rules without a name. -/
def without (x : Exclusions) (f : String) : Exclusions :=
  { x with files := x.files.filter (· ≠ f) }

/-- The rules with a name taken as a text. -/
def asText (x : Exclusions) (f : String) : Exclusions := (x.without f).addPatterns [f]

variable {x : Exclusions} {f : String} {c : Candidate}

/-- A name that no example can have decides nothing. -/
lemma evaluate_without (h : c.basename ≠ f) : (x.without f).evaluate c = x.evaluate c := by
  have hname : c.basename ∈ (x.without f).files ↔ c.basename ∈ x.files := by
    simp [without, h]
  by_cases hc : c.basename ∈ x.files
  · rw [evaluate_of_mem hc, evaluate_of_mem (hname.mpr hc)]
  · rw [evaluate_of_notMem hc, evaluate_of_notMem (mt hname.mp hc)]
    rfl

/-- A name that is taken as a text still leaves out what it left out. -/
lemma proceed_of_asText (h : (x.asText f).evaluate c = .proceed) : x.evaluate c = .proceed := by
  obtain ⟨hname, htexts⟩ := evaluate_eq_proceed_iff.mp h
  have hne : c.basename ≠ f := by
    rintro rfl
    exact htexts _ (mem_addNew.mpr (.inr List.mem_cons_self)) c.basename_infix_text
  have hwithin : (x.without f).Within (x.asText f) :=
    ⟨List.Subset.refl _, fun t ht => mem_addNew.mpr (.inl ht)⟩
  rw [← evaluate_without hne]
  exact hwithin.proceed h

end Exclusions

/-- The name of an example has no slash and stands in its path as shown. So a name among the rules
leaves out no more than the same text would, and nothing if it has a slash. -/
theorem Candidate.basename_within (c : Candidate) :
    (∀ n, c.path.EndsIn n → n ≠ Path.up → c.basename = Bytes.display n) ∧
    ((∀ n, c.path.EndsIn n → n = Path.up) → c.basename = "") ∧
    '/' ∉ c.basename.toList ∧ c.basename.toList <:+: c.text.toList ∧
    (∀ (x : Exclusions) (f : String),
      x.evaluate c ≠ .proceed → (x.asText f).evaluate c ≠ .proceed) ∧
    ∀ f : String, '/' ∈ f.toList → c.basename ≠ f ∧
      ∀ x : Exclusions, (x.without f).evaluate c = x.evaluate c := by
  refine ⟨fun n h => c.basename_eq h, c.basename_eq_empty, c.slash_notMem_basename,
    c.basename_infix_text, fun x f => mt Exclusions.proceed_of_asText, fun f hf => ?_⟩
  have hne : c.basename ≠ f := fun h => c.slash_notMem_basename (h ▸ hf)
  exact ⟨hne, fun x => Exclusions.evaluate_without hne⟩

/-- A name that breaks off within a character, with a slash and a dot behind it. -/
theorem Candidate.broken_name_within :
    let n : Bytes := [0x78, 0xE2, 0x82]
    let c : Candidate := ⟨.ofString "a/" ++ n ++ .ofString "//."⟩
    let x : Exclusions := ⟨["b", "x\uFFFD"], []⟩
    c.path.EndsIn n ∧ c.basename = Bytes.display n ∧ x.evaluate c ≠ .proceed ∧
      (x.asText "x\uFFFD").evaluate c ≠ .proceed ∧ '/' ∈ "a/x".toList ∧ c.basename ≠ "a/x" := by
  intro n c x
  obtain ⟨named, -, -, -, taken, slashed⟩ := c.basename_within
  have ends : c.path.EndsIn n := ⟨[[0x61]], [[], [0x2E]], by decide⟩
  have skipped : x.evaluate c ≠ .proceed := by decide +kernel
  have slash : '/' ∈ "a/x".toList := by decide
  exact ⟨ends, named n ends (by decide), skipped, taken x _ skipped, slash, (slashed _ slash).1⟩

end ExampleSuite
