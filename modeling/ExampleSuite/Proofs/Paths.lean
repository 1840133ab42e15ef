import ExampleSuite.Path
import Mathlib.Data.List.Basic
import Mathlib.Tactic.Common

/-!
Names, and the paths that are made by putting names below one another.

A name put below a path is one more part of it. So paths below a directory are told apart by the
names on the way, and compare as these names do, one after the other.
-/

namespace ExampleSuite

namespace Bytes

variable {sep : UInt8}

lemma splitOn_ne_nil (sep : UInt8) (p : Bytes) : splitOn sep p ≠ [] := by
  induction p with
  | nil => simp [splitOn]
  | cons b p ih =>
    rw [splitOn]
    split
    · simp
    · split <;> simp

lemma splitOn_of_notMem {n : Bytes} (h : sep ∉ n) : splitOn sep n = [n] := by
  induction n with
  | nil => rfl
  | cons b n ih =>
    obtain ⟨hb, hn⟩ := not_or.mp (List.mem_cons.not.mp h)
    rw [splitOn, if_neg (Ne.symm hb), ih hn]

lemma splitOn_append_cons (p n : Bytes) :
    splitOn sep (p ++ sep :: n) = splitOn sep p ++ splitOn sep n := by
  induction p with
  | nil => simp [splitOn]
  | cons b p ih =>
    rw [List.cons_append, splitOn, splitOn]
    by_cases hb : b = sep
    · rw [if_pos hb, if_pos hb, ih, List.cons_append]
    · rw [if_neg hb, if_neg hb, ih]
      cases hp : splitOn sep p with
      | nil => exact absurd hp (splitOn_ne_nil sep p)
      | cons q qs => rfl

lemma notMem_of_mem_splitOn {p s : Bytes} (h : s ∈ splitOn sep p) :
    sep ∉ s := by
  induction p generalizing s with
  | nil =>
    rw [splitOn, List.mem_singleton] at h
    simp [h]
  | cons b p ih =>
    rw [splitOn] at h
    by_cases hb : b = sep
    · rw [if_pos hb] at h
      obtain rfl | h := List.mem_cons.mp h
      · exact List.not_mem_nil
      · exact ih h
    · rw [if_neg hb] at h
      cases hp : splitOn sep p with
      | nil => exact absurd hp (splitOn_ne_nil sep p)
      | cons q qs =>
        rw [hp] at h ih
        obtain rfl | h := List.mem_cons.mp h
        · have hq : sep ∉ q := ih List.mem_cons_self
          simp [Ne.symm hb, hq]
        · exact ih (List.mem_cons_of_mem q h)

lemma le_iff {a b : Bytes} : le a b = true ↔ a = b ∨ a < b := by
  induction a generalizing b with
  | nil => cases b <;> simp [le]
  | cons x a ih =>
    cases b with
    | nil => simp [le]
    | cons y b =>
      rw [le, Bool.or_eq_true, Bool.and_eq_true, ih, List.cons_lt_cons_iff]
      simp only [decide_eq_true_eq, beq_iff_eq, List.cons.injEq]
      tauto

lemma le_trans {a b c : Bytes} (hab : le a b) (hbc : le b c) : le a c := by
  rw [le_iff] at *
  obtain rfl | hab := hab
  · exact hbc
  · obtain rfl | hbc := hbc
    · exact .inr hab
    · exact .inr (List.lt_trans hab hbc)

lemma le_total (a b : Bytes) : le a b ∨ le b a := by
  rw [le_iff, le_iff]
  obtain h | rfl | h := Std.lt_trichotomy a b
  · exact .inl (.inr h)
  · exact .inl (.inl rfl)
  · exact .inr (.inr h)

end Bytes

namespace Path

/-! ### Names -/

/-- What an entry of a directory can be called. -/
structure IsName (n : Bytes) : Prop where
  ne_nil : n ≠ []
  ne_here : n ≠ here
  ne_up : n ≠ up
  no_slash : slash ∉ n

instance (n : Bytes) : Decidable (IsName n) :=
  decidable_of_iff (n ≠ [] ∧ n ≠ here ∧ n ≠ up ∧ slash ∉ n)
    ⟨fun ⟨h₁, h₂, h₃, h₄⟩ => ⟨h₁, h₂, h₃, h₄⟩, fun ⟨h₁, h₂, h₃, h₄⟩ => ⟨h₁, h₂, h₃, h₄⟩⟩

/-- The parts of a path that are not empty. -/
def parts (p : Path) : List Bytes := (Bytes.splitOn slash p).filter (· != [])

lemma steps_eq (p : Path) : steps p = (parts p).filter (· != here) := by
  rw [steps, parts, List.filter_filter]
  exact List.filter_congr fun s _ => Bool.and_comm _ _

/-- A part that names no step is empty or a single dot. -/
lemma not_step_iff {s : Bytes} : (!(s != [] && s != here)) = true ↔ s = [] ∨ s = here := by
  by_cases hs : s = [] <;> simp [hs]

variable {p : Path} {n : Bytes}

/-- A path without the slash at its end. -/
lemma parts_append_slash (p : Path) : parts (p ++ [slash]) = parts p := by
  rw [parts, Bytes.splitOn_append_cons, List.filter_append]
  simp [Bytes.splitOn, parts]

lemma parts_append_cons (p : Path) (hn : IsName n) : parts (p ++ slash :: n) = parts p ++ [n] := by
  rw [parts, Bytes.splitOn_append_cons, Bytes.splitOn_of_notMem hn.no_slash, List.filter_append]
  simp [parts, hn.ne_nil]

/-- A path either ends in a slash or does not, and a name is put below it accordingly. -/
lemma join_cases (hp : p ≠ []) (n : Bytes) :
    (∃ q, p = q ++ [slash] ∧ join p n = q ++ slash :: n) ∨
      (p.getLast? ≠ some slash ∧ join p n = p ++ slash :: n) := by
  rw [join, if_neg hp]
  by_cases hl : p.getLast? = some slash
  · obtain ⟨q, rfl⟩ := List.getLast?_eq_some_iff.mp hl
    exact .inl ⟨q, rfl, by simp⟩
  · exact .inr ⟨hl, if_neg hl⟩

lemma parts_join (p : Path) (hn : IsName n) : parts (join p n) = parts p ++ [n] := by
  by_cases hp : p = []
  · subst hp
    simp [join, parts, Bytes.splitOn, Bytes.splitOn_of_notMem hn.no_slash, hn.ne_nil]
  · obtain ⟨q, rfl, h⟩ | ⟨-, h⟩ := join_cases hp n
    · rw [h, parts_append_cons q hn, parts_append_slash]
    · rw [h, parts_append_cons p hn]

@[simp] lemma steps_join (p : Path) (hn : IsName n) : steps (join p n) = steps p ++ [n] := by
  rw [steps_eq, steps_eq, parts_join p hn, List.filter_append]
  simp [hn.ne_here]

@[simp] lemma fileName_join (p : Path) (hn : IsName n) : fileName (join p n) = some n := by
  simp [fileName, hn, hn.ne_up]

lemma length_join_le (p : Path) (n : Bytes) : p.length + n.length ≤ (join p n).length := by
  unfold join
  split_ifs with hp hl
  · simp [hp]
  · simp
  · simp

lemma join_ne_nil (p : Path) (hn : IsName n) : join p n ≠ [] := by
  have hle := length_join_le p n
  have hpos := List.length_pos_iff.mpr hn.ne_nil
  exact List.length_pos_iff.mp (by omega)

/-! ### Extensions -/

/-- What follows the last dot of a name. -/
def afterDot (n : Bytes) : Bytes := (n.reverse.takeWhile (· != dot)).reverse

lemma afterDot_append {s x : Bytes} (hx : dot ∉ x) : afterDot (s ++ dot :: x) = x := by
  have hne : ∀ b ∈ x.reverse, (b != dot) = true := fun b hb => by
    rw [bne_iff_ne]
    rintro rfl
    exact hx (List.mem_reverse.mp hb)
  rw [afterDot, List.reverse_append, List.reverse_cons, List.append_assoc,
    List.takeWhile_append_of_pos hne]
  simp

lemma notMem_afterDot (n : Bytes) : dot ∉ afterDot n := by
  intro h
  have hall := List.all_eq_true.mp (List.all_takeWhile (p := (· != dot)) (l := n.reverse))
  simpa using hall dot (List.mem_reverse.mp h)

/-- A name is what precedes its last dot, the dot and what follows it, unless it has no dot. -/
lemma eq_append_afterDot (h : (afterDot n).length < n.length) :
    ∃ s, n = s ++ dot :: afterDot n := by
  have hn := List.takeWhile_append_dropWhile (p := (· != dot)) (l := n.reverse)
  cases hd : n.reverse.dropWhile (· != dot) with
  | nil =>
    rw [hd, List.append_nil] at hn
    have hl : (afterDot n).length = n.length := by rw [afterDot, hn, List.reverse_reverse]
    omega
  | cons b r =>
    have hb : b = dot := by
      have hne : n.reverse.dropWhile (· != dot) ≠ [] := by simp [hd]
      have := List.head_dropWhile_not (· != dot) hne
      simpa [hd] using this
    refine ⟨r.reverse, ?_⟩
    rw [hd, hb] at hn
    rw [← List.reverse_inj, ← hn]
    simp [afterDot]

lemma cutAtDot_eq_some_iff {s x : Bytes} :
    cutAtDot n = some (s, x) ↔ n ≠ up ∧ n = s ++ dot :: x ∧ s ≠ [] ∧ dot ∉ x := by
  have hcut : cutAtDot n = if n = up then none else
      if (afterDot n).length < n.length ∧ n.take (n.length - (afterDot n).length - 1) ≠ [] then
        some (n.take (n.length - (afterDot n).length - 1), afterDot n) else none := rfl
  have stem {t : Bytes} (ht : n = t ++ dot :: afterDot n) :
      n.take (n.length - (afterDot n).length - 1) = t := by
    have hl : n.length = t.length + ((afterDot n).length + 1) := by
      conv_lhs => rw [ht]
      simp
    rw [show n.length - (afterDot n).length - 1 = t.length by omega]
    conv_lhs => rw [ht]
    exact List.take_left
  rw [hcut]
  constructor
  · intro h
    split_ifs at h with hup hlt
    obtain ⟨t, ht⟩ := eq_append_afterDot hlt.1
    rw [stem ht] at h hlt
    obtain ⟨rfl, rfl⟩ := Prod.mk.inj (Option.some.inj h)
    exact ⟨hup, ht, hlt.2, notMem_afterDot n⟩
  · rintro ⟨hup, rfl, hs, hx⟩
    have ha : afterDot (s ++ dot :: x) = x := afterDot_append hx
    have hst := stem (t := s) (by rw [ha])
    have hlt : (afterDot (s ++ dot :: x)).length < (s ++ dot :: x).length := by
      rw [ha, List.length_append, List.length_cons]
      omega
    rw [if_neg hup, if_pos ⟨hlt, by rwa [hst]⟩, hst, ha]

/-- A name has an extension if it ends in a dot and the extension, and does not begin there. -/
lemma extension_join_eq_some_iff (p : Path) (hn : IsName n) {x : Bytes} :
    extension (join p n) = some x ↔ ∃ s, n = s ++ dot :: x ∧ s ≠ [] ∧ dot ∉ x := by
  simp only [extension, fileName_join p hn, Option.bind_some, Option.map_eq_some_iff, Prod.exists,
    exists_eq_right]
  refine exists_congr fun s => ?_
  rw [cutAtDot_eq_some_iff, and_iff_right hn.ne_up]

/-! ### Paths below a path -/

/-- The path that goes on from a path by names. -/
def joins (p : Path) (ns : List Bytes) : Path := ns.foldl join p

@[simp] lemma joins_nil (p : Path) : joins p [] = p := rfl

@[simp] lemma joins_cons (p : Path) (n : Bytes) (ns : List Bytes) :
    joins p (n :: ns) = joins (join p n) ns := rfl

lemma joins_append (p : Path) (ns ms : List Bytes) :
    joins p (ns ++ ms) = joins (joins p ns) ms := List.foldl_append

lemma steps_joins (p : Path) {ns : List Bytes} (h : ∀ n ∈ ns, IsName n) :
    steps (joins p ns) = steps p ++ ns := by
  induction ns generalizing p with
  | nil => simp
  | cons n ns ih =>
    have hn : IsName n := h n List.mem_cons_self
    rw [joins_cons, ih _ fun m hm => h m (List.mem_cons_of_mem n hm), steps_join p hn]
    simp

lemma joins_inj {p : Path} {ns ms : List Bytes} (hn : ∀ n ∈ ns, IsName n)
    (hm : ∀ n ∈ ms, IsName n) (h : joins p ns = joins p ms) : ns = ms := by
  have hs := congrArg steps h
  rw [steps_joins p hn, steps_joins p hm] at hs
  exact List.append_cancel_left hs

/-- The steps by which a path goes on from a root. -/
def beyond (root p : Path) : List Bytes := (steps p).drop (steps root).length

/-- In strict order no path comes twice. -/
lemma nodup_of_ordered {ps : List Path} (h : ps.Pairwise fun p q => steps p < steps q) :
    ps.Nodup := by
  refine List.Pairwise.imp (fun hpq => ?_) h
  rintro rfl
  exact List.lt_irrefl _ hpq

/-- Paths below two names of one directory compare as the names do. -/
lemma steps_joins_lt (p : Path) {n m : Bytes} {ns ms : List Bytes}
    (hn : ∀ s ∈ n :: ns, IsName s) (hm : ∀ s ∈ m :: ms, IsName s) (h : n < m) :
    steps (joins p (n :: ns)) < steps (joins p (m :: ms)) := by
  rw [steps_joins p hn, steps_joins p hm]
  exact List.append_left_lt (List.cons_lt_cons_iff.mpr (.inl h))

/-- A path comes before all that lies below it. -/
lemma steps_lt_steps_joins (p : Path) {n : Bytes} {ns : List Bytes}
    (hn : ∀ s ∈ n :: ns, IsName s) : steps p < steps (joins p (n :: ns)) := by
  rw [steps_joins p hn]
  conv_lhs => rw [← List.append_nil (steps p)]
  exact List.append_left_lt (List.nil_lt_cons n ns)

end Path

end ExampleSuite
