import ExampleSuite.RuleFile
import Mathlib.Data.Finset.Card
import Mathlib.Data.Finset.Dedup
import Mathlib.Data.List.Induction

/-!
What an alias stands for.

An anchor gets a number, and an alias stands for the last node of its document that has the number
of its name. Where no alias has a name that was anchored anew before another anchor, this is the
node behind the latest anchor of that name.
-/

namespace ExampleSuite.Yaml

open RuleFile (place)

/-! ### Anchors -/

def TokenKind.anchored? : TokenKind → Option (List Char)
  | .anchor a => some a
  | _ => none

/-- The names that tokens anchor, in order, and where. -/
def anchors (ts : List Token) : List (List Char × Mark) :=
  ts.filterMap fun t => t.kind.anchored?.map (·, t.start)

def anchorNames (ts : List Token) : List (List Char) := (anchors ts).map Prod.fst

lemma anchors_append (ts us : List Token) : anchors (ts ++ us) = anchors ts ++ anchors us :=
  List.filterMap_append

lemma anchorNames_append (ts us : List Token) :
    anchorNames (ts ++ us) = anchorNames ts ++ anchorNames us := by
  simp [anchorNames, anchors_append]

/-- The alias at one place has the name of the anchor at another, which no anchor between them
has. -/
def Refers (ts : List Token) (m m' : Mark) : Prop :=
  ∃ a us vs ws stop stop', ts = us ++ ⟨.anchor a, m', stop'⟩ :: (vs ++ ⟨.alias a, m, stop⟩ :: ws) ∧
    a ∉ anchorNames vs

def TokenKind.alias? : TokenKind → Option (List Char)
  | .alias a => some a
  | _ => none

def TokenKind.isTag : TokenKind → Bool
  | .tag _ => true
  | _ => false

/-- No node has a tag of its own. -/
def Untagged (ts : List Token) : Prop := ∀ t ∈ ts, t.kind.isTag = false

instance (ts : List Token) : Decidable (Untagged ts) :=
  inferInstanceAs (Decidable (∀ t ∈ ts, _))

/-- No alias has a name that was anchored anew before another anchor. -/
def Unshared (ts : List Token) : Prop :=
  ∀ i : Fin ts.length, ∀ a ∈ ts[i].kind.alias?,
    (anchorNames (ts.take i)).count a ≤ 1 ∨
      (anchorNames (ts.take i)).getLast? = some a ∧ anchorNames (ts.drop i) = []

instance (ts : List Token) : Decidable (Unshared ts) :=
  inferInstanceAs (Decidable (∀ i : Fin ts.length, ∀ a ∈ ts[i].kind.alias?, _ ∨ _))

lemma Unshared.of_eq {ts us ws : List Token} {a : List Char} {m stop : Mark} (h : Unshared ts)
    (hts : ts = us ++ ⟨.alias a, m, stop⟩ :: ws) :
    (anchorNames us).count a ≤ 1 ∨ (anchorNames us).getLast? = some a ∧ anchorNames ws = [] := by
  subst hts
  simpa [TokenKind.alias?, anchorNames, anchors, TokenKind.anchored?] using
    h ⟨us.length, by simp⟩ a (by simp [TokenKind.alias?])

/-! ### Numbers -/

/-- The number of each anchor with its order, last first. The number tells how many different names
came before. -/
def numbers (as : List (List Char)) : List (ℕ × ℕ) :=
  ((List.range as.length).map fun i => ((as.take i).toFinset.card, i)).reverse

lemma numbers_concat (as : List (List Char)) (a : List Char) :
    numbers (as ++ [a]) = (as.toFinset.card, as.length) :: numbers as := by
  simp only [numbers, List.length_append, List.length_singleton, List.range_succ, List.map_append,
    List.map_singleton, List.reverse_append, List.reverse_singleton, List.singleton_append,
    List.take_left, List.cons.injEq, List.reverse_inj, true_and]
  refine List.map_congr_left fun i hi => ?_
  rw [List.take_append_of_le_length (List.mem_range.mp hi).le]

/-- A name that was new keeps its number for itself, and so does the last one. -/
lemma lookup_numbers {pre mid : List (List Char)} {a : List Char} (h : a ∉ pre ∨ mid = []) :
    (numbers (pre ++ a :: mid)).lookup pre.toFinset.card = some pre.length := by
  induction mid using List.reverseRecOn with
  | nil => simp [numbers_concat]
  | append_singleton mid b ih =>
    have ha : a ∉ pre := by simpa using h
    have hlt : pre.toFinset.card < (pre ++ a :: mid).toFinset.card := by
      refine Finset.card_lt_card
        ((Finset.ssubset_iff_of_subset ?_).mpr ⟨a, by simp, by simpa using ha⟩)
      intro x hx
      simp_all
    rw [← List.cons_append, ← List.append_assoc, numbers_concat, List.lookup_cons,
      beq_eq_false_iff_ne.mpr hlt.ne]
    exact ih (.inl ha)

namespace Parse

variable {p : Parse} {as : List (List Char)}

/-- What is known of names once they have been anchored. -/
structure Numbered (as : List (List Char)) (p : Parse) : Prop where
  length : p.names.length = as.toFinset.card
  slots : p.slots = numbers as
  isSome (a : List Char) : (p.names.lookup a).isSome ↔ a ∈ as
  lookup (a : List Char) (n : ℕ) : p.names.lookup a = some n →
    ∃ pre mid, as = pre ++ a :: mid ∧ a ∉ mid ∧ n = pre.toFinset.card

lemma lookup_update (l : List (List Char × ℕ)) (a b : List Char) (n : ℕ) :
    (l.map fun e => if e.1 = a then (a, n) else e).lookup b =
      if b = a then (l.lookup b).map fun _ => n else l.lookup b := by
  induction l with
  | nil => simp
  | cons e l ih =>
    obtain ⟨c, k⟩ := e
    by_cases hca : c = a
    · subst hca
      by_cases hb : b = c
      · simp [hb]
      · simp [List.lookup_cons, beq_eq_false_iff_ne.mpr hb, hb, ih]
    · by_cases hb : b = c
      · subst hb
        simp [hca]
      · simp [List.lookup_cons, hca, beq_eq_false_iff_ne.mpr hb, ih]

lemma lookup_anchor (a b : List Char) :
    (p.anchor a).names.lookup b = if b = a then some p.names.length else p.names.lookup b := by
  unfold anchor
  split_ifs with hs hb hb
  · obtain ⟨n, hn⟩ := Option.isSome_iff_exists.mp hs
    simp [lookup_update, hb, hn]
  · simp [lookup_update, hb]
  · subst hb
    simp [List.lookup_append, Option.not_isSome_iff_eq_none.mp hs]
  · simp [List.lookup_append, List.lookup_cons, beq_eq_false_iff_ne.mpr hb]

lemma Numbered.anchor (h : Numbered as p) (a : List Char) : Numbered (as ++ [a]) (p.anchor a) where
  length := by
    have hsome := h.isSome a
    unfold Parse.anchor
    split_ifs with hs
    · have ha := hsome.mp hs
      simp [h.length, ha]
    · have ha : a ∉ as := fun ha => hs (hsome.mpr ha)
      simp [h.length, ha]
  slots := by
    have hlen : p.slots.length = as.length := by simp [h.slots, numbers]
    rw [numbers_concat, ← h.slots, ← h.length, ← hlen]
    rfl
  isSome b := by
    rw [lookup_anchor]
    split_ifs with hb <;> simp [hb, h.isSome]
  lookup b n hn := by
    rw [lookup_anchor] at hn
    split_ifs at hn with hb
    · obtain rfl := Option.some.inj hn
      exact ⟨as, [], by rw [hb], by simp, h.length⟩
    · obtain ⟨pre, mid, rfl, hmid, rfl⟩ := h.lookup b n hn
      exact ⟨pre, mid ++ [a], by simp, by simp [hmid, hb], rfl⟩

/-! ### Nodes -/

/-- An alias that was read before the rest of the tokens, with its number. -/
def Links (ts rest : List Token) (m : Mark) (k : ℕ) : Prop :=
  ∃ us a stop ws pre mid, ts = us ++ ⟨.alias a, m, stop⟩ :: ws ∧ rest <:+ ws ∧
    anchorNames us = pre ++ a :: mid ∧ a ∉ mid ∧ k = pre.toFinset.card

/-- A node without tags, whose aliases were read before the rest of the tokens. -/
inductive Sound (ts rest : List Token) : Node → Prop where
  | scalar (m : Mark) (plain : Bool) (s : List Char) : Sound ts rest (.scalar m none plain s)
  | seq (m : Mark) {ns : List Node} (items : ∀ n ∈ ns, Sound ts rest n) : Sound ts rest (.seq m ns)
  | map (m : Mark) {es : List (Node × Node)} (keys : ∀ e ∈ es, Sound ts rest e.1)
      (values : ∀ e ∈ es, Sound ts rest e.2) : Sound ts rest (.map m es)
  | link {m : Mark} {k : ℕ} (links : Links ts rest m k) : Sound ts rest (.alias m k)

section nodes

variable {ts rest rest' : List Token} {n : Node} {busy : List ℕ} {q : Parse} {α β : Type}
  {S : List Token → α → Prop} {T : List Token → β → Prop}

lemma Sound.mono (h : Sound ts rest n) (hr : rest' <:+ rest) : Sound ts rest' n := by
  induction h with
  | scalar m plain s => exact .scalar m plain s
  | seq m _ ih => exact .seq m ih
  | map m _ _ ihk ihv => exact .map m ihk ihv
  | link links =>
    obtain ⟨us, a, stop, ws, pre, mid, h, hs, h'⟩ := links
    exact .link ⟨us, a, stop, ws, pre, mid, h, hr.trans hs, h'⟩

lemma sound_blank (m : Mark) : Sound ts rest (blank m) := .scalar m true []

/-- A state on the way through the tokens of a document. The nodes of all anchors so far are
complete, those apart whose order is among the busy ones. -/
structure Reached (ts : List Token) (busy : List ℕ) (p : Parse) : Prop where
  used : ∃ us, ts = us ++ p.toks ∧ Numbered (anchorNames us) p
  built (k : ℕ) (n : Node) : (k, n) ∈ p.built →
    (anchors ts)[k]?.map Prod.snd = some (place n) ∧ Sound ts p.toks n
  done (k : ℕ) : k < p.slots.length → k ∈ busy ∨ ∃ n, (k, n) ∈ p.built

lemma next_suffix (p : Parse) : p.next.toks <:+ p.toks := List.drop_suffix ..

lemma kind_of_toks {t : Token} {us : List Token} (h : p.toks = t :: us) : p.kind = t.kind := by
  simp [kind, h]

lemma toks_of_kind (h : p.kind ≠ .streamEnd) :
    ∃ stop, p.toks = ⟨p.kind, p.mark, stop⟩ :: p.next.toks := by
  cases ht : p.toks with
  | nil => simp [kind, ht] at h
  | cons t us => exact ⟨t.stop, by simp [kind, mark, next, ht]⟩

lemma Reached.next (h : Reached ts busy p) (hk : p.kind.anchored? = none) :
    Reached ts busy p.next where
  used := by
    obtain ⟨us, hts, hn⟩ := h.used
    have happ : us ++ p.toks.take 1 ++ p.next.toks = ts := by
      rw [List.append_assoc, Parse.next, List.take_append_drop, hts]
    refine ⟨us ++ p.toks.take 1, happ.symm, ?_⟩
    have hnil : anchorNames (p.toks.take 1) = [] := by
      cases ht : p.toks with
      | nil => rfl
      | cons t us => simpa [anchorNames, anchors, kind, ht] using hk
    rw [anchorNames_append, hnil, List.append_nil]
    exact ⟨hn.length, hn.slots, hn.isSome, hn.lookup⟩
  built k n hn := ⟨(h.built k n hn).1, (h.built k n hn).2.mono (next_suffix p)⟩
  done := h.done

/-- An anchor opens the node behind it. -/
lemma Reached.anchor (h : Reached ts busy p) {a : List Char} (hk : p.kind = .anchor a) :
    (anchors ts)[p.slots.length]?.map Prod.snd = some p.mark ∧
      Reached ts (p.slots.length :: busy) (p.next.anchor a) := by
  obtain ⟨us, hts, hn⟩ := h.used
  obtain ⟨stop, htoks⟩ := toks_of_kind (p := p) (by simp [hk])
  rw [hk] at htoks
  have hlen : p.slots.length = (anchors us).length := by simp [hn.slots, numbers, anchorNames]
  constructor
  · rw [hts, htoks, anchors_append, hlen]
    simp [anchors, TokenKind.anchored?]
  · refine ⟨⟨us ++ [⟨.anchor a, p.mark, stop⟩], ?_, ?_⟩, ?_, ?_⟩
    · rw [hts, htoks, List.append_assoc]
      rfl
    · rw [anchorNames_append]
      exact Numbered.anchor (p := p.next) ⟨hn.length, hn.slots, hn.isSome, hn.lookup⟩ a
    · intro k n hb
      exact ⟨(h.built k n hb).1, (h.built k n hb).2.mono (next_suffix p)⟩
    · intro k hk
      rcases Nat.lt_succ_iff_lt_or_eq.mp hk with hk | rfl
      · exact (h.done k hk).imp_left (List.mem_cons_of_mem _)
      · exact .inl List.mem_cons_self

lemma Reached.record {k : ℕ} (h : Reached ts (k :: busy) p)
    (hk : (anchors ts)[k]?.map Prod.snd = some (place n)) (hn : Sound ts p.toks n) :
    Reached ts busy (p.record (some k) n) where
  used := h.used.imp fun _ => .imp_right fun hn => ⟨hn.length, hn.slots, hn.isSome, hn.lookup⟩
  built l m hm := by
    rcases List.mem_cons.mp hm with hm | hm
    · obtain ⟨rfl, rfl⟩ := Prod.mk.inj hm
      exact ⟨hk, hn⟩
    · exact h.built l m hm
  done l hl := by
    rcases h.done l hl with hb | ⟨m, hm⟩
    · rcases List.mem_cons.mp hb with rfl | hb
      · exact .inr ⟨n, List.mem_cons_self⟩
      · exact .inl hb
    · exact .inr ⟨m, List.mem_cons_of_mem _ hm⟩

/-- What comes of a state, if anything, is something of a kind and a state further on. -/
def Gives (ts : List Token) (busy : List ℕ) (p : Parse) (S : List Token → α → Prop)
    (x : Option (α × Parse)) : Prop :=
  ∀ a q, x = some (a, q) → Reached ts busy q ∧ q.toks <:+ p.toks ∧ S q.toks a

lemma gives_some {a : α} (hq : Reached ts busy q) (ha : S q.toks a) :
    Gives ts busy q S (some (a, q)) := by
  rintro b r h
  obtain ⟨rfl, rfl⟩ := Prod.mk.inj (Option.some.inj h)
  exact ⟨hq, List.suffix_rfl, ha⟩

lemma gives_none : Gives ts busy q S none := nofun

lemma Gives.of_suffix {x : Option (α × Parse)} (h : Gives ts busy q S x) (hq : q.toks <:+ p.toks) :
    Gives ts busy p S x :=
  fun a r hr => (h a r hr).imp_right (.imp_left (·.trans hq))

lemma Gives.bind {x : Option (α × Parse)} {f : α × Parse → Option (β × Parse)}
    (hx : Gives ts busy p S x)
    (hf : ∀ a q, Reached ts busy q → S q.toks a → Gives ts busy q T (f (a, q))) :
    Gives ts busy p T (x >>= f) := by
  intro b r h
  obtain ⟨⟨a, q⟩, ha, hb⟩ := Option.bind_eq_some_iff.mp h
  obtain ⟨hq, hs, ha⟩ := hx a q ha
  exact (hf a q hq ha).of_suffix hs b r hb

lemma Gives.map {x : Option (α × Parse)} {f : α → β} (hx : Gives ts busy p S x)
    (hf : ∀ rest a, S rest a → T rest (f a)) :
    Gives ts busy p T (x.map fun (a, q) => (f a, q)) := by
  intro b r h
  obtain ⟨⟨a, q⟩, ha, hb⟩ := Option.map_eq_some_iff.mp h
  obtain ⟨rfl, rfl⟩ := Prod.mk.inj hb
  exact (hx a q ha).imp_right (.imp_right (hf _ _))

/-- A node behind its anchor, if it has one, and without a tag. -/
def content (inBlock loose : Bool) (fuel : ℕ) (m : Mark) (named : Bool) (p : Parse) :
    Option (Node × Parse) :=
  match p.kind with
  | .scalar plain text => some (.scalar m none plain text, p.next)
  | .flowSeqStart => (flowItems true fuel p.next).map fun (is, p) => (.seq m is, p)
  | .flowMapStart => (flowEntries true fuel p.next).map fun (es, p) => (.map m es, p)
  | .blockEntry =>
    if loose then (looseItems fuel p).map fun (is, p) => (.seq m is, p)
    else if named then some (.scalar m none true [], p) else none
  | .blockSeqStart =>
    if inBlock then (blockItems fuel p.next).map fun (is, p) => (.seq m is, p)
    else if named then some (.scalar m none true [], p) else none
  | .blockMapStart =>
    if inBlock then (blockEntries fuel p.next).map fun (es, p) => (.map m es, p)
    else if named then some (.scalar m none true [], p) else none
  | _ => if named then some (.scalar m none true [], p) else none

lemma node_of_anchor {inBlock loose : Bool} {fuel : ℕ} {a : List Char} (hk : p.kind = .anchor a)
    (ht : ∀ t, p.next.kind ≠ .tag t) :
    node inBlock loose (fuel + 1) p =
      (content inBlock loose fuel p.mark true (p.next.anchor a)).map fun (n, q) =>
        (n, q.record (some p.slots.length) n) := by
  have hprop : p.properties = (some a, none, p.next) := by
    unfold properties
    simp only [hk]
  have hslots : p.next.slots = p.slots := rfl
  unfold node content
  simp only [hk, hprop, Option.bind_eq_bind, Option.bind_some, hslots]
  cases (p.next.anchor a).kind <;> cases inBlock <;> cases loose <;> simp [Option.map_eq_bind]

lemma node_of_bare {inBlock loose : Bool} {fuel : ℕ} (hl : p.kind.alias? = none)
    (ha : p.kind.anchored? = none) (ht : ∀ t, p.kind ≠ .tag t) :
    node inBlock loose (fuel + 1) p = content inBlock loose fuel p.mark false p := by
  have hprop : p.properties = (none, none, p) := by
    unfold properties
    cases hk : p.kind <;> simp_all [TokenKind.anchored?]
  unfold node content
  simp only [hprop, Option.bind_eq_bind, Option.bind_some]
  cases hk : p.kind <;> cases inBlock <;> cases loose <;> simp_all [TokenKind.alias?, record]

/-! ### The way through a document -/


def Sounds (ts rest : List Token) (ns : List Node) : Prop := ∀ n ∈ ns, Sound ts rest n

def SoundEntries (ts rest : List Token) (es : List (Node × Node)) : Prop :=
  ∀ e ∈ es, Sound ts rest e.1 ∧ Sound ts rest e.2

/-- Each part of the parser keeps to sound nodes, with so much fuel. -/
structure Keeps (ts : List Token) (fuel : ℕ) : Prop where
  node (inBlock loose : Bool) {busy : List ℕ} {p : Parse} : Reached ts busy p →
    Gives ts busy p (Sound ts) (node inBlock loose fuel p)
  blockItems {busy : List ℕ} {p : Parse} : Reached ts busy p →
    Gives ts busy p (Sounds ts) (blockItems fuel p)
  looseItems {busy : List ℕ} {p : Parse} : Reached ts busy p →
    Gives ts busy p (Sounds ts) (looseItems fuel p)
  blockEntries {busy : List ℕ} {p : Parse} : Reached ts busy p →
    Gives ts busy p (SoundEntries ts) (blockEntries fuel p)
  flowItems (first : Bool) {busy : List ℕ} {p : Parse} : Reached ts busy p →
    Gives ts busy p (Sounds ts) (flowItems first fuel p)
  flowEntries (first : Bool) {busy : List ℕ} {p : Parse} : Reached ts busy p →
    Gives ts busy p (SoundEntries ts) (flowEntries first fuel p)

lemma Gives.cons {x : Option (Node × Parse)} {f : Parse → Option (List Node × Parse)}
    (hx : Gives ts busy p (Sound ts) x)
    (hf : ∀ q, Reached ts busy q → Gives ts busy q (Sounds ts) (f q)) :
    Gives ts busy p (Sounds ts) (x >>= fun (n, q) => f q >>= fun (ns, r) => pure (n :: ns, r)) := by
  refine hx.bind fun n q hq hn => ?_
  intro a r h
  obtain ⟨⟨ns, s⟩, hs, h⟩ := Option.bind_eq_some_iff.mp h
  obtain ⟨rfl, rfl⟩ := Prod.mk.inj (Option.some.inj h)
  obtain ⟨hr, hsuf, hns⟩ := hf q hq _ _ hs
  exact ⟨hr, hsuf, List.forall_mem_cons.mpr ⟨hn.mono hsuf, hns⟩⟩

lemma Gives.entry {k : Node} {x : Option (Node × Parse)}
    {f : Parse → Option (List (Node × Node) × Parse)} (hk : Sound ts p.toks k)
    (hx : Gives ts busy p (Sound ts) x)
    (hf : ∀ q, Reached ts busy q → Gives ts busy q (SoundEntries ts) (f q)) :
    Gives ts busy p (SoundEntries ts)
      (x >>= fun (v, q) => f q >>= fun (es, r) => pure ((k, v) :: es, r)) := by
  intro a r h
  obtain ⟨⟨v, q⟩, hv, h⟩ := Option.bind_eq_some_iff.mp h
  obtain ⟨⟨es, s⟩, hes, h⟩ := Option.bind_eq_some_iff.mp h
  obtain ⟨rfl, rfl⟩ := Prod.mk.inj (Option.some.inj h)
  obtain ⟨hq, hpq, hv⟩ := hx _ _ hv
  obtain ⟨hr, hqr, hes⟩ := hf q hq _ _ hes
  exact ⟨hr, hqr.trans hpq,
    List.forall_mem_cons.mpr ⟨⟨hk.mono (hqr.trans hpq), hv.mono hqr⟩, hes⟩⟩

/-- A separator is passed, where one has to be. -/
lemma Gives.separated {first : Bool} {f : Parse → Option (β × Parse)} (hp : Reached ts busy p)
    (hf : ∀ q, Reached ts busy q → Gives ts busy q T (f q)) :
    Gives ts busy p T (if first then some p >>= f
      else if p.kind = .flowEntry then some p.next >>= f else none >>= f) := by
  split_ifs with h1 h2
  · exact hf p hp
  · exact (hf p.next (hp.next (by simp [h2, TokenKind.anchored?]))).of_suffix (next_suffix p)
  · exact gives_none

variable {fuel : ℕ}

lemma Reached.next_of_toks (hp : Reached ts busy p) {t : Token} {us : List Token}
    (htoks : p.toks = t :: us) (ht : t.kind.anchored? = none) : Reached ts busy p.next :=
  hp.next (by rw [kind_of_toks htoks, ht])

lemma Keeps.blockItems_succ (ih : Keeps ts fuel) (hp : Reached ts busy p) :
    Gives ts busy p (Sounds ts) (Parse.blockItems (fuel + 1) p) := by
  unfold Parse.blockItems
  split
  case h_1 htoks =>
    have hn := hp.next_of_toks htoks rfl
    have hrest {x} (hx : Gives ts busy p.next (Sound ts) x) :=
      (Gives.cons hx fun _ => ih.blockItems).of_suffix (next_suffix p)
    dsimp only
    split
    · exact hrest (gives_some hn (sound_blank _))
    · exact hrest (gives_some hn (sound_blank _))
    · exact hrest (ih.node _ _ hn)
  case h_2 htoks =>
    exact (gives_some (hp.next_of_toks htoks rfl) nofun).of_suffix (next_suffix p)
  case h_3 => exact gives_none

lemma Keeps.looseItems_succ (ih : Keeps ts fuel) (hp : Reached ts busy p) :
    Gives ts busy p (Sounds ts) (Parse.looseItems (fuel + 1) p) := by
  unfold Parse.looseItems
  split
  case h_1 htoks =>
    have hn := hp.next_of_toks htoks rfl
    have hrest {x} (hx : Gives ts busy p.next (Sound ts) x) :=
      (Gives.cons hx fun _ => ih.looseItems).of_suffix (next_suffix p)
    dsimp only
    split
    case h_5 => exact hrest (ih.node _ _ hn)
    all_goals exact hrest (gives_some hn (sound_blank _))
  case h_2 => exact gives_some hp nofun

lemma Keeps.blockValue (ih : Keeps ts fuel) (hp : Reached ts busy p) {k : Node}
    (hk : Sound ts p.toks k) :
    Gives ts busy p (SoundEntries ts) (do
      let (v, p) ← match p.toks with
        | ⟨.value, _, stop⟩ :: _ =>
          let p := p.next
          match p.kind with
          | .key => some (blank stop, p)
          | .value => some (blank stop, p)
          | .blockEnd => some (blank stop, p)
          | _ => Parse.node true true fuel p
        | _ => some (blank p.mark, p)
      let (es, p) ← Parse.blockEntries fuel p
      return ((k, v) :: es, p)) := by
  split
  case h_1 htoks =>
    have hn := hp.next_of_toks htoks rfl
    have hrest {x} (hx : Gives ts busy p.next (Sound ts) x) :=
      (Gives.entry (hk.mono (next_suffix p)) hx fun _ => ih.blockEntries).of_suffix (next_suffix p)
    dsimp only
    split
    case h_4 => exact hrest (ih.node _ _ hn)
    all_goals exact hrest (gives_some hn (sound_blank _))
  case h_2 => exact Gives.entry hk (gives_some hp (sound_blank _)) fun _ => ih.blockEntries

lemma Keeps.blockEntries_succ (ih : Keeps ts fuel) (hp : Reached ts busy p) :
    Gives ts busy p (SoundEntries ts) (Parse.blockEntries (fuel + 1) p) := by
  unfold Parse.blockEntries
  split
  case h_1 htoks =>
    have hn := hp.next_of_toks htoks rfl
    refine Gives.of_suffix ?_ (next_suffix p)
    dsimp only
    split
    all_goals refine Gives.bind (S := Sound ts) ?_ fun _ _ hq hk => ih.blockValue hq hk
    case h_4 => exact ih.node _ _ hn
    all_goals exact gives_some hn (sound_blank _)
  case h_2 htoks =>
    exact (gives_some (hp.next_of_toks htoks rfl) nofun).of_suffix (next_suffix p)
  case h_3 => exact gives_none

/-- What stands where the value of a flow entry may be, and the rest of the collection. -/
lemma Keeps.flowValue (ih : Keeps ts fuel) (hp : Reached ts busy p) {k : Node} {m : Mark}
    (hk : Sound ts p.toks k) :
    Gives ts busy p (Sounds ts) (do
      let (v, p) ← match p.kind with
        | .value =>
          let p := p.next
          match p.kind with
          | .flowEntry => some (blank p.mark, p)
          | .flowSeqEnd => some (blank p.mark, p)
          | _ => Parse.node false false fuel p
        | _ => some (blank p.mark, p)
      let (ns, p) ← Parse.flowItems false fuel p
      return (.map m [(k, v)] :: ns, p)) := by
  have hrest {q : Parse} {x : Option (Node × Parse)} (hq : Sound ts q.toks k)
      (hx : Gives ts busy q (Sound ts) x) : Gives ts busy q (Sounds ts) (x >>= fun (v, q) =>
        Parse.flowItems false fuel q >>= fun (ns, q) => pure (.map m [(k, v)] :: ns, q)) := by
    intro a r h
    obtain ⟨⟨v, q'⟩, hv, h⟩ := Option.bind_eq_some_iff.mp h
    obtain ⟨⟨ns, s⟩, hns, h⟩ := Option.bind_eq_some_iff.mp h
    obtain ⟨rfl, rfl⟩ := Prod.mk.inj (Option.some.inj h)
    obtain ⟨hq', hpq, hv⟩ := hx _ _ hv
    obtain ⟨hr, hqr, hns⟩ := ih.flowItems false hq' _ _ hns
    refine ⟨hr, hqr.trans hpq, List.forall_mem_cons.mpr ⟨.map m ?_ ?_, hns⟩⟩
    · simpa using hq.mono (hqr.trans hpq)
    · simpa using hv.mono hqr
  split
  case h_1 hk' =>
    have hn := hp.next (by rw [hk']; rfl)
    refine Gives.of_suffix ?_ (next_suffix p)
    dsimp only
    split
    case h_3 => exact hrest (hk.mono (next_suffix p)) (ih.node _ _ hn)
    all_goals exact hrest (hk.mono (next_suffix p)) (gives_some hn (sound_blank _))
  case h_2 => exact hrest hk (gives_some hp (sound_blank _))

lemma Keeps.flowItems_succ (ih : Keeps ts fuel) (first : Bool) (hp : Reached ts busy p) :
    Gives ts busy p (Sounds ts) (Parse.flowItems first (fuel + 1) p) := by
  unfold Parse.flowItems
  split
  case h_1 hk =>
    exact (gives_some (hp.next (by rw [hk]; rfl)) nofun).of_suffix (next_suffix p)
  case h_2 =>
    refine Gives.separated hp fun q hq => ?_
    dsimp only
    split
    case h_1 hk =>
      exact (gives_some (hq.next (by rw [hk]; rfl)) nofun).of_suffix (next_suffix q)
    case h_2 hk =>
      have hn := hq.next (by rw [hk]; rfl)
      refine Gives.of_suffix ?_ (next_suffix q)
      split
      all_goals refine Gives.bind (S := Sound ts) ?_ fun _ _ hq hk => ih.flowValue hq hk
      case h_4 => exact ih.node _ _ hn
      all_goals
        rename_i htoks
        exact (gives_some (hn.next_of_toks htoks rfl) (sound_blank _)).of_suffix (next_suffix _)
    case h_3 => exact Gives.cons (ih.node _ _ hq) fun _ => ih.flowItems false

/-- What stands where the value of an entry of a flow mapping may be, and the rest of it. -/
lemma Keeps.flowEntryValue (ih : Keeps ts fuel) (hp : Reached ts busy p) {k : Node}
    (hk : Sound ts p.toks k) :
    Gives ts busy p (SoundEntries ts) (do
      let (v, p) ← match p.kind with
        | .value =>
          let p := p.next
          match p.kind with
          | .flowEntry => some (blank p.mark, p)
          | .flowMapEnd => some (blank p.mark, p)
          | _ => Parse.node false false fuel p
        | _ => some (blank p.mark, p)
      let (es, p) ← Parse.flowEntries false fuel p
      return ((k, v) :: es, p)) := by
  split
  case h_1 hk' =>
    have hn := hp.next (by rw [hk']; rfl)
    have hrest {x} (hx : Gives ts busy p.next (Sound ts) x) :=
      (Gives.entry (hk.mono (next_suffix p)) hx fun _ => ih.flowEntries false).of_suffix
        (next_suffix p)
    dsimp only
    split
    case h_3 => exact hrest (ih.node _ _ hn)
    all_goals exact hrest (gives_some hn (sound_blank _))
  case h_2 => exact Gives.entry hk (gives_some hp (sound_blank _)) fun _ => ih.flowEntries false

lemma Keeps.flowEntries_succ (ih : Keeps ts fuel) (first : Bool) (hp : Reached ts busy p) :
    Gives ts busy p (SoundEntries ts) (Parse.flowEntries first (fuel + 1) p) := by
  unfold Parse.flowEntries
  split
  case h_1 hk =>
    exact (gives_some (hp.next (by rw [hk]; rfl)) nofun).of_suffix (next_suffix p)
  case h_2 =>
    refine Gives.separated hp fun q hq => ?_
    dsimp only
    split
    case h_1 hk =>
      exact (gives_some (hq.next (by rw [hk]; rfl)) nofun).of_suffix (next_suffix q)
    case h_2 hk =>
      have hn := hq.next (by rw [hk]; rfl)
      refine Gives.of_suffix ?_ (next_suffix q)
      split
      all_goals refine Gives.bind (S := Sound ts) ?_ fun _ _ hq hk => ih.flowEntryValue hq hk
      case h_4 => exact ih.node _ _ hn
      all_goals exact gives_some hn (sound_blank _)
    case h_3 =>
      refine Gives.bind (ih.node _ _ hq) fun k r hr hk => ?_
      exact Gives.entry hk (gives_some hr (sound_blank _)) fun _ => ih.flowEntries false

/-- A node behind its anchor, if it has one, begins where that does. -/
lemma Keeps.content (ih : Keeps ts fuel) {inBlock loose named : Bool} {m : Mark}
    (hp : Reached ts busy p) :
    Gives ts busy p (fun rest n => Sound ts rest n ∧ place n = m)
      (Parse.content inBlock loose fuel m named p) := by
  have hblank : Gives ts busy p (fun rest n => Sound ts rest n ∧ place n = m)
      (if named then some (.scalar m none true [], p) else none) := by
    split_ifs
    · exact gives_some hp ⟨.scalar m true [], rfl⟩
    · exact gives_none
  unfold Parse.content
  split
  case h_1 hk =>
    exact (gives_some (hp.next (by rw [hk]; rfl)) ⟨.scalar m _ _, rfl⟩).of_suffix (next_suffix p)
  case h_2 hk =>
    exact ((ih.flowItems true (hp.next (by rw [hk]; rfl))).of_suffix (next_suffix p)).map
      fun _ _ h => ⟨.seq m h, rfl⟩
  case h_3 hk =>
    exact ((ih.flowEntries true (hp.next (by rw [hk]; rfl))).of_suffix (next_suffix p)).map
      fun _ _ h => ⟨.map m (fun e he => (h e he).1) fun e he => (h e he).2, rfl⟩
  case h_4 =>
    split_ifs
    · exact (ih.looseItems hp).map fun _ _ h => ⟨.seq m h, rfl⟩
    all_goals simpa [*] using hblank
  case h_5 hk =>
    split_ifs
    · exact ((ih.blockItems (hp.next (by rw [hk]; rfl))).of_suffix (next_suffix p)).map
        fun _ _ h => ⟨.seq m h, rfl⟩
    all_goals simpa [*] using hblank
  case h_6 hk =>
    split_ifs
    · exact ((ih.blockEntries (hp.next (by rw [hk]; rfl))).of_suffix (next_suffix p)).map
        fun _ _ h => ⟨.map m (fun e he => (h e he).1) fun e he => (h e he).2, rfl⟩
    all_goals simpa [*] using hblank
  case h_7 => exact hblank

lemma Reached.kind_ne_tag (hu : Untagged ts) (hp : Reached ts busy p) (t : RawTag) :
    p.kind ≠ .tag t := by
  obtain ⟨us, hts, -⟩ := hp.used
  cases ht : p.toks with
  | nil => simp [kind, ht]
  | cons u vs =>
    rw [kind_of_toks ht]
    intro hk
    simpa [hk, TokenKind.isTag] using hu u (by simp [hts, ht])

lemma Reached.links (hp : Reached ts busy p) {a : List Char} (hk : p.kind = .alias a) {k : ℕ}
    (ha : p.names.lookup a = some k) : Links ts p.next.toks p.mark k := by
  obtain ⟨us, hts, hn⟩ := hp.used
  obtain ⟨stop, htoks⟩ := toks_of_kind (p := p) (by simp [hk])
  obtain ⟨pre, mid, hus, hmid, rfl⟩ := hn.lookup a k ha
  rw [hk] at htoks
  exact ⟨us, a, stop, p.next.toks, pre, mid, by rw [hts, htoks], List.suffix_rfl, hus, hmid, rfl⟩

lemma Keeps.node_succ (hu : Untagged ts) (ih : Keeps ts fuel) (inBlock loose : Bool)
    (hp : Reached ts busy p) :
    Gives ts busy p (Sound ts) (Parse.node inBlock loose (fuel + 1) p) := by
  by_cases hl : ∃ a, p.kind = .alias a
  · obtain ⟨a, hk⟩ := hl
    intro n q h
    simp only [Parse.node, hk, Option.map_eq_some_iff] at h
    obtain ⟨k, ha, h⟩ := h
    obtain ⟨rfl, rfl⟩ := Prod.mk.inj h
    exact ⟨hp.next (by rw [hk]; rfl), next_suffix p, .link (hp.links hk ha)⟩
  · by_cases ha : ∃ a, p.kind = .anchor a
    · obtain ⟨a, hk⟩ := ha
      obtain ⟨hplace, hq⟩ := hp.anchor hk
      rw [node_of_anchor hk fun t => (hq.kind_ne_tag hu t :)]
      intro n q h
      obtain ⟨⟨n', q'⟩, hc, h⟩ := Option.map_eq_some_iff.mp h
      obtain ⟨rfl, rfl⟩ := Prod.mk.inj h
      obtain ⟨hq', hsuf, hn, hm⟩ := ih.content hq _ _ hc
      exact ⟨hq'.record (hm ▸ hplace) hn, hsuf.trans (next_suffix p), hn⟩
    · have hbare : p.kind.alias? = none ∧ p.kind.anchored? = none := by
        cases hk : p.kind <;> simp_all [TokenKind.alias?, TokenKind.anchored?]
      rw [node_of_bare hbare.1 hbare.2 (hp.kind_ne_tag hu)]
      exact fun n q h => (ih.content hp n q h).imp_right (.imp_right And.left)

lemma keeps (hu : Untagged ts) (fuel : ℕ) : Keeps ts fuel := by
  induction fuel with
  | zero =>
    constructor <;> intros <;> intro _ _ h <;>
      simp [node, blockItems, looseItems, blockEntries, flowItems, flowEntries] at h
  | succ fuel ih =>
    exact ⟨fun b l => ih.node_succ hu b l, ih.blockItems_succ, ih.looseItems_succ,
      ih.blockEntries_succ, fun f => ih.flowItems_succ f, fun f => ih.flowEntries_succ f⟩

end nodes

end Parse

/-! ### Documents -/

/-- The nodes of a document. -/
inductive Document.Has (d : Document) : Node → Prop where
  | root : Has d d.root
  | anchored {k : ℕ} {n : Node} (anchored : (k, n) ∈ d.anchored) : Has d n
  | item {m : Mark} {ns : List Node} {n : Node} (seq : Has d (.seq m ns)) (item : n ∈ ns) : Has d n
  | key {m : Mark} {es : List (Node × Node)} {e : Node × Node} (map : Has d (.map m es))
      (entry : e ∈ es) : Has d e.1
  | value {m : Mark} {es : List (Node × Node)} {e : Node × Node} (map : Has d (.map m es))
      (entry : e ∈ es) : Has d e.2

lemma Document.Has.sound {ts rest : List Token} {d : Document} {n : Node} (h : d.Has n)
    (hroot : Parse.Sound ts rest d.root)
    (hanchored : ∀ k n, (k, n) ∈ d.anchored → Parse.Sound ts rest n) : Parse.Sound ts rest n := by
  induction h with
  | root => exact hroot
  | anchored h => exact hanchored _ _ h
  | item _ hn ih =>
    cases ih with
    | seq _ items => exact items _ hn
  | key _ he ih =>
    cases ih with
    | map _ keys => exact keys _ he
  | value _ he ih =>
    cases ih with
    | map _ _ values => exact values _ he

namespace Parse

variable {ts : List Token} {p : Parse}

/-- An anchor can be found among the tokens. -/
lemma exists_anchor {us : List Token} {pre mid : List (List Char)} {a : List Char}
    (h : anchorNames us = pre ++ a :: mid) :
    ∃ us₁ m stop us₂, us = us₁ ++ ⟨.anchor a, m, stop⟩ :: us₂ ∧ anchorNames us₁ = pre ∧
      anchorNames us₂ = mid := by
  obtain ⟨as₁, as₂, has, rfl, h₂⟩ := List.map_eq_append_iff.mp h
  obtain ⟨⟨a, m⟩, as₃, rfl, rfl, rfl⟩ := List.map_eq_cons_iff.mp h₂
  obtain ⟨us₁, us₂, rfl, hus₁, hus₂⟩ := List.filterMap_eq_append_iff.mp has
  obtain ⟨us₃, ⟨k, start, stop⟩, us₄, rfl, hus₃, hk, hus₄⟩ := List.filterMap_eq_cons_iff.mp hus₂
  have hnil : anchors us₃ = [] := List.filterMap_eq_nil_iff.mpr hus₃
  cases k <;> simp only [TokenKind.anchored?, Option.map_none, Option.map_some, reduceCtorEq,
    Option.some.injEq, Prod.mk.injEq] at hk
  obtain ⟨rfl, rfl⟩ := hk
  refine ⟨us₁ ++ us₃, start, stop, us₄, by simp, ?_, congrArg _ hus₄⟩
  rw [anchorNames_append, anchorNames, anchorNames, hnil, ← hus₁, List.map_nil, List.append_nil]
  rfl

lemma lookup_filterMap {l : List (ℕ × ℕ)} {f : ℕ → Option Node} (h : ∀ e ∈ l, (f e.2).isSome)
    (c : ℕ) : (l.filterMap fun (n, k) => (f k).map (n, ·)).lookup c = (l.lookup c).bind f := by
  induction l with
  | nil => rfl
  | cons e l ih =>
    obtain ⟨he, hl⟩ := List.forall_mem_cons.mp h
    obtain ⟨x, hx⟩ := Option.isSome_iff_exists.mp he
    obtain ⟨n, k⟩ := e
    rw [List.filterMap_cons_some (b := (n, x)) (by simp [hx]), List.lookup_cons, List.lookup_cons,
      ih hl]
    cases c == n <;> simp [hx]

lemma mem_of_lookup {α β : Type} [BEq α] [LawfulBEq α] {l : List (α × β)} {a : α} {b : β}
    (h : l.lookup a = some b) : (a, b) ∈ l := by
  obtain ⟨l₁, l₂, rfl, -⟩ := List.lookup_eq_some_iff.mp h
  simp

lemma Reached.lookup_built (hp : Reached ts [] p) : ∀ e ∈ p.slots, (p.built.lookup e.2).isSome := by
  obtain ⟨us, -, hn⟩ := hp.used
  intro e he
  have hlt : e.2 < p.slots.length := by
    simp only [hn.slots, numbers, List.mem_reverse, List.mem_map, List.mem_range] at he ⊢
    obtain ⟨i, hi, rfl⟩ := he
    simpa using hi
  obtain ⟨n, hn⟩ : ∃ n, (e.2, n) ∈ p.built := by simpa using hp.done e.2 hlt
  rw [Option.isSome_iff_ne_none]
  intro hnone
  simpa using List.lookup_eq_none_iff.mp hnone _ hn

/-- The number of an alias leads to the node behind the latest anchor of its name. -/
lemma Reached.exists_anchored (hu : Unshared ts) (hp : Reached ts [] p) (root : Node) {m : Mark}
    {k : ℕ} (hl : Links ts p.toks m k) :
    ∃ m', Refers ts m m' ∧ ∃ n, (p.document root).anchored.lookup k = some n ∧ place n = m' := by
  obtain ⟨us, a, stop, ws, pre, mid, hts, ⟨vs, rfl⟩, hus, hmid, rfl⟩ := hl
  obtain ⟨us', hts', hn⟩ := hp.used
  obtain ⟨us₁, m', stop', us₂, rfl, rfl, rfl⟩ := exists_anchor hus
  refine ⟨m', ⟨a, us₁, us₂, vs ++ p.toks, stop, stop', by simp [hts], hmid⟩, ?_⟩
  have hus' : anchorNames us' = anchorNames us₁ ++ a :: (anchorNames us₂ ++ anchorNames vs) := by
    have happ : us' ++ p.toks = (us₁ ++ ⟨.anchor a, m', stop'⟩ :: us₂ ++
        ⟨.alias a, m, stop⟩ :: vs) ++ p.toks := by
      rw [← hts', hts]
      simp
    rw [List.append_cancel_right happ]
    simp [anchorNames, anchors, TokenKind.anchored?]
  have halone : a ∉ anchorNames us₁ ∨ anchorNames us₂ ++ anchorNames vs = [] := by
    rcases hu.of_eq hts with hcount | ⟨hlast, hnil⟩
    · rw [hus, List.count_append, List.count_cons_self] at hcount
      exact .inl (List.count_eq_zero.mp (by omega))
    · rw [anchorNames_append] at hnil
      rw [(List.append_eq_nil_iff.mp hnil).1, List.append_nil]
      rw [hus] at hlast
      refine .inr (List.eq_nil_iff_forall_not_mem.mpr fun b hb => hmid ?_)
      have hne := List.ne_nil_of_mem hb
      rw [List.getLast?_append_of_ne_nil _ (by simp), List.getLast?_cons_of_ne_nil hne] at hlast
      exact List.mem_of_getLast? hlast
  have hslot := lookup_numbers halone
  rw [← hus', ← hn.slots] at hslot
  obtain ⟨n, hlook⟩ := Option.isSome_iff_exists.mp (hp.lookup_built _ (mem_of_lookup hslot))
  have hplace := (hp.built _ _ (mem_of_lookup hlook)).1
  refine ⟨n, ?_, ?_⟩
  · have hlookup := lookup_filterMap (f := fun i => p.built.lookup i) hp.lookup_built
      (anchorNames us₁).toFinset.card
    rw [hslot] at hlookup
    exact hlookup.trans hlook
  · have hlen : (anchorNames us₁).length = (anchors us₁).length := by simp [anchorNames]
    rw [hts, List.append_assoc, anchors_append, hlen] at hplace
    simpa [anchors, TokenKind.anchored?, eq_comm] using hplace

/-! ### The only document -/

lemma directives_suffix {us vs : List Token} {b : Bool} {tags tags' : List (List Char × List Char)}
    (h : directives us b tags = some (tags', vs)) : ∃ ws, us = ws ++ vs ∧ anchors ws = [] := by
  fun_induction directives us b tags with
  | case1 => exact nomatch h
  | case2 a b _ _ us _ _ _ ih =>
    obtain ⟨ws, rfl, hws⟩ := ih h
    exact ⟨_ :: ws, rfl, by simpa [anchors, TokenKind.anchored?] using hws⟩
  | case3 => exact nomatch h
  | case4 t _ _ _ us _ _ _ ih =>
    obtain ⟨ws, rfl, hws⟩ := ih h
    exact ⟨_ :: ws, rfl, by simpa [anchors, TokenKind.anchored?] using hws⟩
  | case5 =>
    obtain ⟨-, rfl⟩ := Prod.mk.inj (Option.some.inj h)
    exact ⟨[], rfl, rfl⟩

lemma reached_start {us vs : List Token} (hts : ts = us ++ vs) (hus : anchors us = [])
    (tags : List (List Char × List Char)) : Reached ts [] (start vs tags) where
  used := by
    refine ⟨us, hts, ?_⟩
    rw [anchorNames, hus]
    exact ⟨rfl, rfl, by simp [start], by simp [start]⟩
  built := nofun
  done := nofun

/-- The first document of tokens is a node that a reading of them leads to. -/
lemma exists_reached_of_oneDocument (hu : Untagged ts) {fuel : ℕ} {vs : List Token} {d : Document}
    (hp : Reached ts [] p) (h : p.oneDocument fuel = some (d, vs)) :
    ∃ q, Reached ts [] q ∧ Sound ts q.toks d.root ∧ d = q.document d.root := by
  obtain ⟨⟨n, q⟩, hn, h⟩ := Option.bind_eq_some_iff.mp h
  obtain ⟨rfl, -⟩ := Prod.mk.inj (Option.some.inj h)
  obtain ⟨hq, -, hs⟩ := (keeps hu fuel).node _ _ hp _ _ hn
  exact ⟨q, hq, hs, rfl⟩

lemma exists_reached_of_explicit (hu : Untagged ts) {fuel : ℕ} {vs : List Token} {d : Document}
    (h : explicit ts fuel = some (d, vs)) :
    ∃ q, Reached ts [] q ∧ Sound ts q.toks d.root ∧ d = q.document d.root := by
  obtain ⟨⟨tags, us⟩, hd, h⟩ := Option.bind_eq_some_iff.mp h
  obtain ⟨ws, hts, hws⟩ := directives_suffix hd
  dsimp only at h
  split at h
  case h_2 => exact nomatch h
  case h_1 t m stop us =>
  have hsplit : ts = ws ++ [⟨.documentStart, m, stop⟩] ++ us := by simp [hts]
  have hp : Reached ts [] (start us tags) :=
    reached_start hsplit (by rw [anchors_append, hws]; rfl) tags
  split_ifs at h
  · obtain ⟨rfl, -⟩ := Prod.mk.inj (Option.some.inj h)
    exact ⟨_, hp, sound_blank _, rfl⟩
  · exact exists_reached_of_oneDocument hu hp h

/-- The first document of a stream. -/
lemma exists_reached (hu : Untagged ts) {d : Document} {ds : List Document}
    (h : documents ts = some (d :: ds)) :
    ∃ q, Reached ts [] q ∧ Sound ts q.toks d.root ∧ d = q.document d.root := by
  unfold documents at h
  split at h
  case h_1 => exact nomatch h
  case h_4 =>
    obtain ⟨⟨d', us⟩, hd, h⟩ := Option.bind_eq_some_iff.mp h
    obtain ⟨ds', -, h⟩ := Option.bind_eq_some_iff.mp h
    obtain ⟨rfl, -⟩ := List.cons.inj (Option.some.inj h)
    exact exists_reached_of_oneDocument hu (reached_start (List.nil_append ts).symm rfl _) hd
  all_goals
    obtain ⟨⟨d', us⟩, hd, h⟩ := Option.bind_eq_some_iff.mp h
    obtain ⟨ds', -, h⟩ := Option.bind_eq_some_iff.mp h
    obtain ⟨rfl, -⟩ := List.cons.inj (Option.some.inj h)
    exact exists_reached_of_explicit hu hd

/-- Each node of the first document is sound. -/
lemma exists_sound (hu : Untagged ts) {d : Document} {ds : List Document}
    (h : documents ts = some (d :: ds)) :
    ∃ q, Reached ts [] q ∧ d = q.document d.root ∧ ∀ n, d.Has n → Sound ts q.toks n := by
  obtain ⟨q, hq, hroot, hd⟩ := exists_reached hu h
  refine ⟨q, hq, hd, fun n hn => hn.sound hroot fun k n hkn => ?_⟩
  rw [hd] at hkn
  obtain ⟨⟨i, o⟩, -, hbuilt⟩ := List.mem_filterMap.mp hkn
  obtain ⟨n', hn', hpair⟩ := Option.map_eq_some_iff.mp hbuilt
  obtain ⟨-, rfl⟩ := Prod.mk.inj hpair
  exact (hq.built _ _ (mem_of_lookup hn')).2

end Parse

end ExampleSuite.Yaml
