import ExampleSuite.Proofs.Aliases
import ExampleSuite.Proofs.Answer
import ExampleSuite.Proofs.Rules
import Mathlib

/-!
Which trees are rules.

The rules of a document are read off its entries one by one. Here they are described as a whole: a
document tells rules if and only if each of its keys says the name of a list, no list is named
twice, and each value holds a list.
-/

namespace ExampleSuite

lemma Exclusions.ofLists_eq (files patterns : List String) :
    ofLists files patterns = ⟨files.eraseDups, patterns.eraseDups⟩ := by
  simp [ofLists, addFiles, addPatterns, none, addNew_eq_eraseDups]

namespace RuleFile

open Yaml (Mark Node Document Value)

/-- A node that stands for a scalar, of whatever style, with a text. -/
def Says (d : Document) (n : Node) (s : String) : Prop :=
  ∃ m tag plain, resolve d n = .scalar m tag plain s.toList

/-- A node that stands for a list of texts: a sequence of scalars, or an empty plain scalar. -/
inductive Holds (d : Document) (n : Node) : List String → Prop where
  | blank {m : Mark} {tag : Option (List Char)} (blank : resolve d n = .scalar m tag true []) :
      Holds d n []
  | seq {m : Mark} {ns : List Node} {ss : List String} (seq : resolve d n = .seq m ns)
      (items : List.Forall₂ (Says d) ns ss) : Holds d n ss

/-- Entries that name each list at most once and hold what is in it. -/
structure Names (d : Document) (es : List (Node × Node)) (fs : List (Field × List String)) :
    Prop where
  entries : List.Forall₂ (fun e f => Says d e.1 f.1.name ∧ Holds d e.2 f.2) es fs
  once : (fs.map Prod.fst).Nodup

/-- The lists that entries name, in which later duplicates do not count. -/
def rules (fs : List (Field × List String)) : Exclusions :=
  ⟨((fs.lookup .files).getD []).eraseDups, ((fs.lookup .patterns).getD []).eraseDups⟩

section decode

variable {d : Document} {n : Node} {m : Mark} {ss : List String} {key : Option Field}

lemma items_eq_ok_iff {i : ℕ} {ns : List Node} :
    items d key i ns = .ok ss ↔ List.Forall₂ (Says d) ns ss := by
  induction ns generalizing i ss with
  | nil => simp [items, eq_comm]
  | cons n ns ih =>
    rw [List.forall₂_cons_left_iff]
    unfold items
    split
    case h_1 m tag plain s h =>
      constructor
      · intro hs
        cases ht : items d key (i + 1) ns with
        | error e => simp [ht, Except.map] at hs
        | ok ts =>
          rw [ht] at hs
          obtain rfl := Except.ok.inj hs
          exact ⟨_, _, ⟨m, tag, plain, by simpa using h⟩, ih.mp ht, rfl⟩
      · rintro ⟨t, ts, ⟨m', tag', plain', ht⟩, hts, rfl⟩
        obtain ⟨-, -, -, rfl⟩ := Node.scalar.inj (h.symm.trans ht)
        simp [ih.mpr hts, Except.map]
    case h_2 hne =>
      refine iff_of_false nofun ?_
      rintro ⟨t, ts, ⟨m', tag', plain', ht⟩, -⟩
      exact hne _ _ _ _ ht

lemma entries_eq_ok_iff : entries d key n = .ok ss ↔ Holds d n ss := by
  unfold entries
  split
  case h_1 m ns h =>
    rw [items_eq_ok_iff]
    constructor
    · exact .seq h
    · rintro (h' | ⟨h', items⟩)
      · simp [h] at h'
      · obtain ⟨-, rfl⟩ := Node.seq.inj (h.symm.trans h')
        exact items
  case h_2 m tag plain s h =>
    split_ifs with hs
    · obtain ⟨rfl, rfl⟩ := hs
      constructor
      · intro he
        obtain rfl := Except.ok.inj he
        exact .blank h
      · rintro (h' | ⟨h', items⟩)
        · rfl
        · simp [h] at h'
    · refine iff_of_false nofun ?_
      rintro (h' | ⟨h', items⟩)
      · obtain ⟨-, -, rfl, rfl⟩ := Node.scalar.inj (h.symm.trans h')
        exact hs ⟨rfl, rfl⟩
      · simp [h] at h'
  case h_3 hseq hscalar =>
    refine iff_of_false nofun ?_
    rintro (h' | ⟨h', items⟩)
    · exact hscalar _ _ _ _ h'
    · exact hseq _ _ h'

lemma field?_eq_some_iff {s : List Char} {f : Field} : field? s = some f ↔ s = f.name.toList := by
  unfold field?
  split_ifs with hf hp
  · subst hf
    cases f <;> decide
  · subst hp
    cases f <;> decide
  · cases f <;> simp [hf, hp]

def Lists.get (l : Lists) : Field → Option (List String)
  | .files => l.files
  | .patterns => l.patterns

lemma Lists.has_eq (l : Lists) (f : Field) : l.has f = (l.get f).isSome := by cases f <;> rfl

lemma Lists.get_put (l : Lists) (f g : Field) (v : List String) :
    (l.put f v).get g = if g = f then some v else l.get g := by
  cases f <;> cases g <;> rfl

lemma Lists.get_put_eq_none_iff {l : Lists} {f g : Field} {v : List String} :
    (l.put f v).get g = none ↔ g ≠ f ∧ l.get g = none := by
  rw [Lists.get_put]
  split_ifs with h <;> simp [h]

/-- An entry is read if and only if it names a list that has not been named before. -/
lemma fields_cons_eq_ok_iff {l l' : Lists} {e : Node × Node} {es : List (Node × Node)} :
    fields d m l (e :: es) = .ok l' ↔ ∃ f ss, Says d e.1 (Field.name f) ∧ Holds d e.2 ss ∧
      l.get f = none ∧ fields d m (l.put f ss) es = .ok l' := by
  obtain ⟨k, v⟩ := e
  constructor
  · intro h
    unfold fields at h
    split at h
    case h_2 => exact nomatch h
    case h_1 km tag plain s hk =>
    split at h
    · exact nomatch h
    case h_2 f hf =>
    split_ifs at h with hhas
    split at h
    · exact nomatch h
    case h_2 ss hss =>
    refine ⟨f, ss, ⟨km, tag, plain, field?_eq_some_iff.mp hf ▸ hk⟩, entries_eq_ok_iff.mp hss, ?_, h⟩
    simpa [Lists.has_eq] using hhas
  · rintro ⟨f, ss, ⟨km, tag, plain, hk⟩, hv, hnew, h⟩
    have hhas : l.has f = false := by simp [Lists.has_eq, hnew]
    unfold fields
    simp only [hk, field?_eq_some_iff.mpr rfl, hhas, entries_eq_ok_iff.mpr hv]
    exact h

/-- Entries are read if and only if they name lists that have not been named before. -/
lemma fields_eq_ok_iff {l l' : Lists} {es : List (Node × Node)} :
    fields d m l es = .ok l' ↔ ∃ fs, Names d es fs ∧ (∀ f ∈ fs.map Prod.fst, l.get f = none) ∧
      l' = fs.foldl (fun l f => l.put f.1 f.2) l := by
  induction es generalizing l with
  | nil =>
    constructor
    · intro h
      exact ⟨[], ⟨.nil, .nil⟩, nofun, (Except.ok.inj h).symm⟩
    · rintro ⟨fs, ⟨hes, -⟩, -, rfl⟩
      obtain rfl := List.forall₂_nil_left_iff.mp hes
      rfl
  | cons e es ih =>
    simp only [fields_cons_eq_ok_iff, ih, Lists.get_put_eq_none_iff]
    constructor
    · rintro ⟨f, ss, hk, hv, hnew, fs, ⟨hes, honce⟩, hfs, rfl⟩
      have honce' : (f :: fs.map Prod.fst).Nodup :=
        List.nodup_cons.mpr ⟨fun hf => (hfs f hf).1 rfl, honce⟩
      exact ⟨(f, ss) :: fs, ⟨.cons ⟨hk, hv⟩ hes, honce'⟩,
        List.forall_mem_cons.mpr ⟨hnew, fun g hg => (hfs g hg).2⟩, rfl⟩
    · rintro ⟨_, ⟨hall, honce⟩, hnew, rfl⟩
      obtain ⟨⟨f, ss⟩, fs, ⟨hk, hv⟩, hes, rfl⟩ := List.forall₂_cons_left_iff.mp hall
      obtain ⟨hf, honce⟩ := List.nodup_cons.mp honce
      obtain ⟨hnewf, hnew⟩ := List.forall_mem_cons.mp hnew
      refine ⟨f, ss, hk, hv, hnewf, fs, ⟨hes, honce⟩, fun g hg => ⟨?_, hnew g hg⟩, rfl⟩
      rintro rfl
      exact hf hg

lemma get_foldl_put {fs : List (Field × List String)} (hfs : (fs.map Prod.fst).Nodup) (l : Lists)
    (g : Field) :
    (fs.foldl (fun l f => l.put f.1 f.2) l).get g = (fs.lookup g).or (l.get g) := by
  induction fs generalizing l with
  | nil => rfl
  | cons f fs ih =>
    obtain ⟨hf, hfs⟩ := List.nodup_cons.mp hfs
    rw [List.foldl_cons, ih hfs, Lists.get_put, List.lookup_cons]
    by_cases h : g = f.1
    · have hnone : fs.lookup g = none := by
        rw [List.lookup_eq_none_iff]
        intro p hp
        simpa [h] using fun he : f.1 = p.1 => hf (he ▸ List.mem_map_of_mem hp)
      simp [h, h ▸ hnone]
    · simp [h, beq_eq_false_iff_ne.mpr h]

lemma toExclusions_foldl_put {fs : List (Field × List String)} (hfs : (fs.map Prod.fst).Nodup) :
    toExclusions (fs.foldl (fun l f => l.put f.1 f.2) ⟨none, none⟩) = rules fs := by
  have hget := get_foldl_put hfs ⟨none, none⟩
  have hf := hget .files
  have hp := hget .patterns
  simp only [Lists.get, Option.or_none] at hf hp
  rw [toExclusions, hf, hp, Exclusions.ofLists_eq, rules]

/-- The entries of a document are read as what they name. -/
lemma decode_eq_ok_iff {es : List (Node × Node)} {x : Exclusions} (hd : d.root = .map m es) :
    decode d = .ok x ↔ ∃ fs, Names d es fs ∧ x = rules fs := by
  have hdec : decode d = (fields d m ⟨none, none⟩ es).map toExclusions := by rw [decode, hd]
  rw [hdec]
  constructor
  · intro h
    cases hl : fields d m ⟨none, none⟩ es with
    | error e => simp [hl, Except.map] at h
    | ok l =>
      rw [hl] at h
      obtain rfl := Except.ok.inj h
      obtain ⟨fs, hfs, -, rfl⟩ := fields_eq_ok_iff.mp hl
      exact ⟨fs, hfs, toExclusions_foldl_put hfs.once⟩
  · rintro ⟨fs, hfs, rfl⟩
    have hnew : ∀ f ∈ fs.map Prod.fst, (⟨none, none⟩ : Lists).get f = none :=
      fun f _ => by cases f <;> rfl
    rw [fields_eq_ok_iff.mpr ⟨fs, hfs, hnew, rfl⟩, ← toExclusions_foldl_put hfs.once]
    rfl

end decode

/-! ### Texts -/

/-- A stream that says nothing: no document, or one that is a word for nothing. -/
def Silent (ds : List Document) : Prop :=
  ds = [] ∨ ∃ d m s, ds = [d] ∧ d.root = .scalar m none true s ∧
    s ∈ ["", "null", "Null", "NULL", "~"].map String.toList

section parse

variable {text : String} {ts : List Yaml.Token} {ds : List Document} {d : Document}
  {x : Exclusions}

lemma eq_nil_or_isNull_iff {s : List Char} :
    s = [] ∨ Value.isNull s ↔ s ∈ ["", "null", "Null", "NULL", "~"].map String.toList := by
  rw [List.map_cons, List.mem_cons]
  refine or_congr Iff.rfl ?_
  simp only [Value.isNull, List.any_eq_true, beq_iff_eq, List.mem_map]

/-- A document whose root has no tag is read if and only if it says nothing or names lists. -/
lemma decode_exact (hroot : ∀ m tag plain s, d.root = .scalar m tag plain s → tag = none) :
    decode d = .ok x ↔ Silent [d] ∧ x = .none ∨
      ∃ m es fs, d.root = .map m es ∧ Names d es fs ∧ x = rules fs := by
  cases hr : d.root with
  | map m es => simp [decode_eq_ok_iff hr, Silent, hr]
  | scalar m tag plain s =>
    obtain rfl := hroot m tag plain s hr
    have hsilent : Silent [d] ↔ plain ∧ (s = [] ∨ Value.isNull s) := by
      rw [eq_nil_or_isNull_iff]
      constructor
      · rintro (h | ⟨d', m', s', h, hr', hs⟩)
        · exact nomatch h
        · obtain rfl := List.singleton_inj.mp h
          obtain ⟨-, -, rfl, rfl⟩ := Node.scalar.inj (hr.symm.trans hr')
          exact ⟨rfl, hs⟩
      · rintro ⟨rfl, hs⟩
        exact .inr ⟨d, m, s, rfl, hr, hs⟩
    have hdec : decode d = if plain ∧ (s = [] ∨ Value.isNull s) then .ok .none
        else fail .document (.scalar m none plain s) "struct RuleFile" := by
      simp [decode, hr]
    rw [hdec, hsilent]
    split_ifs with h
    · simp [h, @eq_comm _ x]
    · simp [h, fail]
  | _ => simp [decode, Silent, fail, hr]

lemma parse_eq (ht : Yaml.tokens text.toList = some ts) (hd : Yaml.Parse.documents ts = some ds) :
    parse text = match ds with
      | [] => .ok .none
      | [d] => decode d
      | d :: _ => (decode d).bind fun _ => .error .manyDocuments := by
  have hread : Yaml.read text.toList = some ds := by rw [Yaml.read, ht, Option.bind_some, hd]
  rw [parse, hread]
  rcases ds with - | ⟨d, - | ⟨d', ds⟩⟩ <;> rfl

/-- A text without tags, in which no alias has a name that was anchored anew before another anchor,
is read if and only if it says nothing or is one mapping that names lists, and then as what it
names. Each alias in it stands for the node that begins at the latest anchor of its name. -/
theorem parse_exact (ht : Yaml.tokens text.toList = some ts)
    (hd : Yaml.Parse.documents ts = some ds) (hu : Yaml.Untagged ts) (hs : Yaml.Unshared ts) :
    (∀ x, parse text = .ok x ↔ Silent ds ∧ x = .none ∨
      ∃ d m es fs, ds = [d] ∧ d.root = .map m es ∧ Names d es fs ∧ x = rules fs) ∧
    ∀ d m k, ds = [d] → d.Has (.alias m k) → ∃ m', Yaml.Refers ts m m' ∧
      resolve d (.alias m k) ∈ d.anchored.map Prod.snd ∧ place (resolve d (.alias m k)) = m' := by
  rw [parse_eq ht hd]
  match ds with
  | [] => exact ⟨fun x => by simp [Silent, eq_comm], nofun⟩
  | [d] =>
    obtain ⟨q, hq, hdoc, hsound⟩ := Yaml.Parse.exists_sound hu hd
    constructor
    · intro x
      have hroot : ∀ m tag plain s, d.root = .scalar m tag plain s → tag = none := by
        intro m tag plain s hr
        have := hsound _ .root
        rw [hr] at this
        cases this
        rfl
      rw [decode_exact hroot]
      simp
    · intro d' m k hds hlink
      obtain rfl := List.singleton_inj.mp hds
      have links : Yaml.Parse.Links ts q.toks m k := by
        cases hsound _ hlink
        assumption
      obtain ⟨m', hm, n, hn, rfl⟩ := hq.exists_anchored hs d.root links
      rw [← hdoc] at hn
      have hres : resolve d (.alias m k) = n := by simp [resolve, hn]
      rw [hres]
      exact ⟨_, hm, List.mem_map_of_mem (Yaml.Parse.mem_of_lookup hn), rfl⟩
  | d :: d' :: ds =>
    refine ⟨fun x => iff_of_false ?_ ?_, nofun⟩
    · cases h : decode d <;> simp [h, Except.bind]
    · simp [Silent]

/-- The second anchor of a name counts, and an alias may stand for a whole list. -/
theorem linked_lists_exact :
    let text := "skip_files: &l [&a x, &a y, *a]\nskip_patterns: *l\n"
    ∃ ts d m es fs m', Yaml.tokens text.toList = some ts ∧ Yaml.Parse.documents ts = some [d] ∧
      Yaml.Untagged ts ∧ Yaml.Unshared ts ∧ d.root = .map m es ∧ Names d es fs ∧
      parse text = .ok (rules fs) ∧ rules fs = ⟨["x", "y"], ["x", "y"]⟩ ∧
      d.Has (.alias ⟨28, 0, 28⟩ 2) ∧ Yaml.Refers ts ⟨28, 0, 28⟩ m' ∧
      place (resolve d (.alias ⟨28, 0, 28⟩ 2)) = m' := by
  intro text
  let x : Node := .scalar ⟨16, 0, 16⟩ none true ['x']
  let y : Node := .scalar ⟨22, 0, 22⟩ none true ['y']
  let l : Node := .seq ⟨12, 0, 12⟩ [x, y, .alias ⟨28, 0, 28⟩ 2]
  let es : List (Node × Node) := [(.scalar ⟨0, 0, 0⟩ none true "skip_files".toList, l),
    (.scalar ⟨32, 1, 0⟩ none true "skip_patterns".toList, .alias ⟨47, 1, 15⟩ 0)]
  let d : Document := ⟨.map ⟨0, 0, 0⟩ es, [(2, y), (1, x), (0, l)]⟩
  have hread : Yaml.read text.toList = some [d] := by
    subst d es l x y text
    cbv
  obtain ⟨ts, ht, hd⟩ := Option.bind_eq_some_iff.mp hread
  have hts : ∀ ts ∈ Yaml.tokens text.toList, Yaml.Untagged ts ∧ Yaml.Unshared ts := by
    decide +kernel
  obtain ⟨hu, hs⟩ := hts ts ht
  have hexact := parse_exact ht hd hu hs
  have hparse : parse text = .ok ⟨["x", "y"], ["x", "y"]⟩ := by
    rw [eq_ok_iff]
    decide +kernel
  have hhas : d.Has (.alias ⟨28, 0, 28⟩ 2) :=
    .item (m := ⟨12, 0, 12⟩) (.value (m := ⟨0, 0, 0⟩) (e := es[0]) .root (by simp [es])) (by simp)
  obtain ⟨m', hm, -, hplace⟩ := hexact.2 d _ _ rfl hhas
  rcases (hexact.1 _).mp hparse with ⟨hsilent, h⟩ | ⟨d', m, es', fs, hds, hroot, hnames, h⟩
  · exact absurd h (by decide)
  · obtain rfl := List.singleton_inj.mp hds
    exact ⟨ts, d, m, es', fs, m', ht, hd, hu, hs, hroot, hnames, h ▸ hparse, h.symm, hhas, hm,
      hplace⟩

/-- An alias of a name that was anchored anew is read as the node behind a later anchor of another
name: the second text to skip is that of `y`, but only that of `z` is read. -/
theorem reanchored_misread :
    let text := "skip_files: [&a x, &a y]\nskip_patterns: [&b z, *a]\n"
    ∃ ts d m k m', Yaml.tokens text.toList = some ts ∧ Yaml.Parse.documents ts = some [d] ∧
      Yaml.Untagged ts ∧ d.Has (.alias m k) ∧ Yaml.Refers ts m m' ∧
      d.Has (.scalar m' none true ['y']) ∧ place (resolve d (.alias m k)) ≠ m' ∧
      parse text = .ok ⟨["x", "y"], ["z"]⟩ := by
  intro text
  let x : Node := .scalar ⟨13, 0, 13⟩ none true ['x']
  let y : Node := .scalar ⟨19, 0, 19⟩ none true ['y']
  let z : Node := .scalar ⟨41, 1, 16⟩ none true ['z']
  let es : List (Node × Node) :=
    [(.scalar ⟨0, 0, 0⟩ none true "skip_files".toList, .seq ⟨12, 0, 12⟩ [x, y]),
    (.scalar ⟨25, 1, 0⟩ none true "skip_patterns".toList,
      .seq ⟨40, 1, 15⟩ [z, .alias ⟨47, 1, 22⟩ 1])]
  let d : Document := ⟨.map ⟨0, 0, 0⟩ es, [(1, z), (1, y), (0, x)]⟩
  have hread : Yaml.read text.toList = some [d] := by
    subst d es z y x text
    cbv
  obtain ⟨ts, ht, hd⟩ := Option.bind_eq_some_iff.mp hread
  have hts : ∀ ts ∈ Yaml.tokens text.toList, Yaml.Untagged ts ∧
      ts = ts.take 8 ++ ⟨.anchor ['a'], ⟨19, 0, 19⟩, ⟨21, 0, 21⟩⟩ :: ((ts.drop 9).take 9 ++
        ⟨.alias ['a'], ⟨47, 1, 22⟩, ⟨49, 1, 24⟩⟩ :: ts.drop 19) ∧
      ['a'] ∉ Yaml.anchorNames ((ts.drop 9).take 9) := by
    decide +kernel
  obtain ⟨hu, hsplit, hnone⟩ := hts ts ht
  have hparse : parse text = .ok ⟨["x", "y"], ["z"]⟩ := by
    rw [eq_ok_iff]
    decide +kernel
  exact ⟨ts, d, _, 1, _, ht, hd, hu,
    .item (m := ⟨40, 1, 15⟩) (.value (m := ⟨0, 0, 0⟩) (e := es[1]) .root (by simp [es])) (by simp),
    ⟨_, _, _, _, _, _, hsplit, hnone⟩, .anchored (k := 1) (by simp [d, y]), by decide, hparse⟩

end parse

end RuleFile
end ExampleSuite
