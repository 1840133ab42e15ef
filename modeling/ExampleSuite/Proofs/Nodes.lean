import ExampleSuite.Proofs.Decoding

/-!
The trees of documents that name lists.

Only the kinds of tokens matter here. A list is a flow sequence, a block sequence with or without
indentation, or nothing at all, and each of these is parsed as a node that holds the list.
-/

namespace ExampleSuite.Yaml.Parse

open RuleFile (Field Says Holds Names)

/-! ### States and kinds -/

def kinds (p : Parse) : List TokenKind := p.toks.map (·.kind)

/-- Something of a kind is parsed, and the tokens behind it are left. -/
def Yields {α : Type} (rest : List TokenKind) (S : α → Prop) (x : Option (α × Parse)) : Prop :=
  ∃ a q, x = some (a, q) ∧ q.kinds = rest ∧ S a

section kinds

variable {α β : Type} {p : Parse} {k : TokenKind} {ks rest rest' : List TokenKind} {S : α → Prop}
  {T : β → Prop}

lemma kind_of_kinds (h : p.kinds = k :: ks) : p.kind = k := by
  obtain ⟨t, us, ht, rfl, -⟩ := List.map_eq_cons_iff.mp h
  exact kind_of_toks ht

lemma kinds_next (h : p.kinds = k :: ks) : p.next.kinds = ks := by
  rw [kinds, next, List.map_drop, ← kinds, h, List.drop_one, List.tail_cons]

lemma toks_of_kinds (h : p.kinds = k :: ks) : ∃ m stop, p.toks = ⟨k, m, stop⟩ :: p.next.toks := by
  obtain ⟨⟨k, m, stop⟩, us, ht, rfl, -⟩ := List.map_eq_cons_iff.mp h
  exact ⟨m, stop, by rw [next, ht]; rfl⟩

lemma Yields.bind {x : Option (α × Parse)} {f : α × Parse → Option (β × Parse)}
    (hx : Yields rest S x) (hf : ∀ a q, q.kinds = rest → S a → Yields rest' T (f (a, q))) :
    Yields rest' T (x >>= f) := by
  obtain ⟨a, q, rfl, hq, ha⟩ := hx
  exact hf a q hq ha

lemma Yields.map {x : Option (α × Parse)} {f : α → β} (hx : Yields rest S x)
    (hf : ∀ a, S a → T (f a)) : Yields rest T (x.map fun (a, q) => (f a, q)) := by
  obtain ⟨a, q, rfl, hq, ha⟩ := hx
  exact ⟨f a, q, rfl, hq, hf a ha⟩

end kinds

/-! ### Lists -/

/-- Scalars one after another in a flow sequence. -/
def flowKinds (plain : Bool) (ss : List String) : List TokenKind :=
  (ss.map fun s => .scalar plain s.toList).intersperse .flowEntry

/-- Scalars one after another in a block sequence. -/
def entryKinds (plain : Bool) (ss : List String) : List TokenKind :=
  ss.flatMap fun s => [.blockEntry, .scalar plain s.toList]

/-- The kinds of the tokens of a list. -/
inductive Written : List TokenKind → List String → Prop where
  | blank : Written [] []
  | flow (plain : Bool) (ss : List String) :
      Written (.flowSeqStart :: (flowKinds plain ss ++ [TokenKind.flowSeqEnd])) ss
  | block (plain : Bool) (ss : List String) :
      Written (.blockSeqStart :: (entryKinds plain ss ++ [TokenKind.blockEnd])) ss
  | loose (plain : Bool) (s : String) (ss : List String) :
      Written (entryKinds plain (s :: ss)) (s :: ss)

/-- The kinds of the tokens of keys and of the lists under them. -/
inductive Entered : List TokenKind → List (Field × List String) → Prop where
  | nil : Entered [] []
  | cons {plain : Bool} {f : Field} {ks ls : List TokenKind} {ss : List String}
      {fs : List (Field × List String)} (value : Written ks ss) (rest : Entered ls fs) :
      Entered (.key :: .scalar plain f.name.toList :: .value :: (ks ++ ls)) ((f, ss) :: fs)

/-- Nodes for texts, in whatever document. -/
def AllSay (ss : List String) (ns : List Node) : Prop := ∀ d, List.Forall₂ (Says d) ns ss

/-- Nodes for lists that are named, in whatever document. -/
def AllName (fs : List (Field × List String)) (es : List (Node × Node)) : Prop :=
  ∀ d, List.Forall₂ (fun e f => Says d e.1 f.1.name ∧ Holds d e.2 f.2) es fs

section lists

variable {p : Parse} {ks rest : List TokenKind} {s : String} {ss : List String} {plain : Bool}
  {fuel : ℕ} {inBlock loose : Bool}

lemma node_scalar (h : p.kinds = TokenKind.scalar plain s.toList :: rest) (hf : 0 < fuel) :
    Yields rest (fun n => ∀ d, Says d n s) (node inBlock loose fuel p) := by
  obtain ⟨fuel, rfl⟩ := Nat.exists_eq_succ_of_ne_zero hf.ne'
  have hk := kind_of_kinds h
  refine ⟨.scalar p.mark none plain s.toList, p.next, ?_, kinds_next h, fun d => ⟨_, _, _, rfl⟩⟩
  rw [node_of_bare (by simp [hk, TokenKind.alias?]) (by simp [hk, TokenKind.anchored?])
    (by simp [hk]), content, hk]

lemma Yields.cons {x : Option (Node × Parse)} {f : Parse → Option (List Node × Parse)}
    {rest' : List TokenKind} (hx : Yields rest (fun n => ∀ d, Says d n s) x)
    (hf : ∀ q, q.kinds = rest → Yields rest' (AllSay ss) (f q)) :
    Yields rest' (AllSay (s :: ss)) (x >>= fun (n, q) =>
      (f q).map fun (ns, q) => (n :: ns, q)) :=
  hx.bind fun _ q hq hn => (hf q hq).map fun _ hns d => .cons (hn d) (hns d)

/-- A comma leads on to the next item. -/
lemma flowItems_comma (h : p.kind = .flowEntry) :
    flowItems false (fuel + 1) p = flowItems true (fuel + 1) p.next := by
  rw [flowItems.eq_def false, flowItems.eq_def true]
  simp only [h, Bool.false_eq_true, if_false, if_true]
  generalize p.next = q
  split
  next hend => simp [hend]
  next => rfl

lemma flowItems_scalar {t : List Char} (h : p.kind = .scalar plain t) :
    flowItems true (fuel + 1) p = node false false fuel p >>= fun (n, q) =>
      (flowItems false fuel q).map fun (ns, q) => (n :: ns, q) := by
  rw [flowItems.eq_def]
  simp only [h, if_true, Option.bind_eq_bind, Option.bind_some, Option.map_eq_bind]
  rfl

lemma flowItems_yields (h : p.kinds = flowKinds plain ss ++ TokenKind.flowSeqEnd :: rest)
    (hf : ss.length < fuel) : Yields rest (AllSay ss) (flowItems true fuel p) := by
  have hend {first : Bool} {p : Parse} {fuel : ℕ} (h : p.kinds = TokenKind.flowSeqEnd :: rest) :
      Yields rest (AllSay []) (flowItems first (fuel + 1) p) := by
    refine ⟨[], p.next, ?_, kinds_next h, fun d => .nil⟩
    rw [flowItems.eq_def]
    simp [kind_of_kinds h]
  induction ss generalizing p fuel with
  | nil =>
    obtain ⟨fuel, rfl⟩ := Nat.exists_eq_succ_of_ne_zero (Nat.ne_zero_of_lt hf)
    exact hend h
  | cons s ss ih =>
    obtain ⟨fuel, rfl⟩ : ∃ f, fuel = f + 2 := ⟨fuel - 2, by simp at hf; omega⟩
    cases ss with
    | nil =>
      rw [flowItems_scalar (kind_of_kinds h)]
      exact (node_scalar h (by omega)).cons fun q hq => hend hq
    | cons t ts =>
      rw [flowItems_scalar (kind_of_kinds h)]
      refine (node_scalar h (by omega)).cons fun q hq => ?_
      rw [flowItems_comma (kind_of_kinds hq)]
      exact ih (kinds_next hq) (by simpa using hf)

lemma blockItems_yields (h : p.kinds = entryKinds plain ss ++ TokenKind.blockEnd :: rest)
    (hf : ss.length < fuel) : Yields rest (AllSay ss) (blockItems fuel p) := by
  induction ss generalizing p fuel with
  | nil =>
    obtain ⟨fuel, rfl⟩ := Nat.exists_eq_succ_of_ne_zero (Nat.ne_zero_of_lt hf)
    obtain ⟨m, stop, ht⟩ := toks_of_kinds h
    refine ⟨[], p.next, ?_, kinds_next h, fun d => .nil⟩
    rw [blockItems, ht]
  | cons s ss ih =>
    obtain ⟨fuel, rfl⟩ := Nat.exists_eq_succ_of_ne_zero (Nat.ne_zero_of_lt hf)
    obtain ⟨m, stop, ht⟩ := toks_of_kinds h
    have hnext := kinds_next h
    have hitem : blockItems (fuel + 1) p = node true false fuel p.next >>= fun (n, q) =>
        (blockItems fuel q).map fun (ns, q) => (n :: ns, q) := by
      rw [blockItems, ht]
      simp only [kind_of_kinds hnext, Option.map_eq_bind]
      rfl
    rw [hitem]
    exact (node_scalar hnext (by simp at hf; omega)).cons fun q hq => ih hq (by simpa using hf)

/-- What may come behind a value in a block mapping. -/
def Behind (ks : List TokenKind) : Prop := ks.head? = some .key ∨ ks.head? = some .blockEnd

lemma looseItems_yields (h : p.kinds = entryKinds plain ss ++ rest) (hrest : Behind rest)
    (hf : ss.length < fuel) : Yields rest (AllSay ss) (looseItems fuel p) := by
  induction ss generalizing p fuel with
  | nil =>
    obtain ⟨fuel, rfl⟩ := Nat.exists_eq_succ_of_ne_zero (Nat.ne_zero_of_lt hf)
    refine ⟨[], p, ?_, h, fun d => .nil⟩
    rw [looseItems]
    split
    case h_1 ht =>
      have hrest' : rest = p.kinds := h.symm
      simp [Behind, hrest', kinds, ht] at hrest
    case h_2 => rfl
  | cons s ss ih =>
    obtain ⟨fuel, rfl⟩ := Nat.exists_eq_succ_of_ne_zero (Nat.ne_zero_of_lt hf)
    obtain ⟨m, stop, ht⟩ := toks_of_kinds h
    have hnext := kinds_next h
    have hitem : looseItems (fuel + 1) p = node true false fuel p.next >>= fun (n, q) =>
        (looseItems fuel q).map fun (ns, q) => (n :: ns, q) := by
      rw [looseItems, ht]
      simp only [kind_of_kinds hnext, Option.map_eq_bind]
      rfl
    rw [hitem]
    exact (node_scalar hnext (by simp at hf; omega)).cons fun q hq => ih hq (by simpa using hf)

lemma Yields.seq {x : Option (List Node × Parse)} {m : Mark} (hx : Yields rest (AllSay ss) x) :
    Yields rest (fun n => ∀ d, Holds d n ss) (x.map fun (ns, q) => (.seq m ns, q)) :=
  hx.map fun _ hns d => .seq rfl (hns d)

lemma node_eq_content {k : TokenKind} (h : p.kinds = k :: rest) (hl : k.alias? = none)
    (ha : k.anchored? = none) (ht : ∀ t, k ≠ .tag t) :
    node inBlock loose (fuel + 1) p = content inBlock loose fuel p.mark false p :=
  have hk := kind_of_kinds h
  node_of_bare (hk ▸ hl) (hk ▸ ha) (hk ▸ ht)

lemma node_flow
    (h : p.kinds = TokenKind.flowSeqStart :: (flowKinds plain ss ++ TokenKind.flowSeqEnd :: rest))
    (hf : ss.length + 1 < fuel) :
    Yields rest (fun n => ∀ d, Holds d n ss) (node inBlock loose fuel p) := by
  obtain ⟨fuel, rfl⟩ := Nat.exists_eq_succ_of_ne_zero (Nat.ne_zero_of_lt hf)
  rw [node_eq_content h rfl rfl nofun, content, kind_of_kinds h]
  exact (flowItems_yields (kinds_next h) (by omega)).seq

lemma node_block
    (h : p.kinds = TokenKind.blockSeqStart :: (entryKinds plain ss ++ TokenKind.blockEnd :: rest))
    (hf : ss.length + 1 < fuel) :
    Yields rest (fun n => ∀ d, Holds d n ss) (node true loose fuel p) := by
  obtain ⟨fuel, rfl⟩ := Nat.exists_eq_succ_of_ne_zero (Nat.ne_zero_of_lt hf)
  rw [node_eq_content h rfl rfl nofun, content, kind_of_kinds h]
  exact (blockItems_yields (kinds_next h) (by omega)).seq

lemma node_loose (h : p.kinds = entryKinds plain (s :: ss) ++ rest) (hrest : Behind rest)
    (hf : ss.length + 2 < fuel) :
    Yields rest (fun n => ∀ d, Holds d n (s :: ss)) (node inBlock true fuel p) := by
  obtain ⟨fuel, rfl⟩ := Nat.exists_eq_succ_of_ne_zero (Nat.ne_zero_of_lt hf)
  rw [node_eq_content h rfl rfl nofun, content, kind_of_kinds h]
  exact (looseItems_yields h hrest (by simp; omega)).seq

/-- How much fuel a list takes. -/
lemma length_flowKinds (plain : Bool) (ss : List String) :
    ss.length ≤ (flowKinds plain ss).length := by
  simp only [flowKinds, List.length_intersperse, List.length_map]
  omega

lemma length_entryKinds (plain : Bool) (ss : List String) :
    (entryKinds plain ss).length = 2 * ss.length := by
  simp [entryKinds, List.length_flatMap, Nat.mul_comm]

/-- A list that is not left out is parsed as a node that holds it. -/
lemma node_yields (hks : Written ks ss) (hne : ks ≠ []) (h : p.kinds = ks ++ rest)
    (hrest : Behind rest) (hf : ks.length < fuel) :
    Yields rest (fun n => ∀ d, Holds d n ss) (node true true fuel p) := by
  cases hks with
  | blank => exact absurd rfl hne
  | flow plain =>
    have := length_flowKinds plain ss
    exact node_flow (by simpa using h) (by simp at hf; omega)
  | block plain =>
    have := length_entryKinds plain ss
    exact node_block (by simpa using h) (by simp at hf; omega)
  | loose plain s ss =>
    have := length_entryKinds plain (s :: ss)
    exact node_loose h hrest (by simp at this; omega)

lemma Yields.entry {f : Field} {fs : List (Field × List String)} {k : Node}
    {x : Option (Node × Parse)} {y : Parse → Option (List (Node × Node) × Parse)}
    {rest' : List TokenKind} (hk : ∀ d, Says d k f.name)
    (hx : Yields rest (fun v => ∀ d, Holds d v ss) x)
    (hy : ∀ q, q.kinds = rest → Yields rest' (AllName fs) (y q)) :
    Yields rest' (AllName ((f, ss) :: fs)) (x >>= fun (v, q) =>
      y q >>= fun (es, q) => pure ((k, v) :: es, q)) :=
  hx.bind fun v q hq hv => (hy q hq).bind fun es r hr hes =>
    ⟨(k, v) :: es, r, rfl, hr, fun d => .cons ⟨hk d, hv d⟩ (hes d)⟩

/-- The list under a key, which may be left out, and the rest of the mapping. -/
lemma blockValue_yields {f : Field} {fs : List (Field × List String)} {k : Node} {m : Mark}
    {rest' : List TokenKind} (hks : Written ks ss) (h : p.kinds = ks ++ rest)
    (hrest : Behind rest) (hf : ks.length < fuel) (hk : ∀ d, Says d k f.name)
    (hes : ∀ q, q.kinds = rest → Yields rest' (AllName fs) (blockEntries fuel q)) :
    Yields rest' (AllName ((f, ss) :: fs)) (do
      let (v, p) ← match p.kind with
        | .key => some (blank m, p)
        | .value => some (blank m, p)
        | .blockEnd => some (blank m, p)
        | _ => node true true fuel p
      let (es, p) ← blockEntries fuel p
      return ((k, v) :: es, p)) := by
  by_cases hne : ks = []
  · subst hne
    cases hks
    have hblank : Yields rest (fun n => ∀ d, Holds d n []) (some (blank m, p)) :=
      ⟨_, _, rfl, h, fun d => .blank rfl⟩
    obtain ⟨r, rs, rfl⟩ : ∃ r rs, rest = r :: rs := List.exists_cons_of_ne_nil (by
      rintro rfl
      simp [Behind] at hrest)
    rcases hrest with hr | hr
    all_goals
      obtain rfl := Option.some.inj hr
      rw [kind_of_kinds h]
      exact .entry hk hblank hes
  · have hn := node_yields hks hne h hrest hf
    cases hks with
    | blank => exact absurd rfl hne
    | flow =>
      rw [kind_of_kinds h]
      exact .entry hk hn hes
    | block =>
      rw [kind_of_kinds h]
      exact .entry hk hn hes
    | loose =>
      rw [kind_of_kinds h]
      exact .entry hk hn hes

lemma Entered.behind {ls : List TokenKind} {fs : List (Field × List String)}
    (h : Entered ls fs) : Behind (ls ++ TokenKind.blockEnd :: rest) := by
  cases h with
  | nil => exact .inr rfl
  | cons => exact .inl rfl

/-- The keys of a block mapping and the lists under them. -/
lemma blockEntries_yields {ls : List TokenKind} {fs : List (Field × List String)}
    (hls : Entered ls fs) (h : p.kinds = ls ++ TokenKind.blockEnd :: rest) (hf : ls.length < fuel) :
    Yields rest (AllName fs) (blockEntries fuel p) := by
  induction hls generalizing p fuel with
  | nil =>
    obtain ⟨fuel, rfl⟩ := Nat.exists_eq_succ_of_ne_zero (Nat.ne_zero_of_lt hf)
    obtain ⟨m, stop, ht⟩ := toks_of_kinds h
    refine ⟨[], p.next, ?_, kinds_next h, fun d => .nil⟩
    rw [blockEntries, ht]
  | @cons plain f ks ls ss fs value rest' ih =>
    obtain ⟨fuel, rfl⟩ := Nat.exists_eq_succ_of_ne_zero (Nat.ne_zero_of_lt hf)
    obtain ⟨m, stop, ht⟩ := toks_of_kinds h
    have hkey := kinds_next h
    simp only [List.length_cons, List.length_append] at hf
    rw [blockEntries, ht]
    simp only [kind_of_kinds hkey]
    refine (node_scalar hkey (by omega)).bind fun k q hq hk => ?_
    obtain ⟨m', stop', ht'⟩ := toks_of_kinds hq
    have hvalue : q.next.kinds = ks ++ (ls ++ TokenKind.blockEnd :: rest) := by
      simpa using kinds_next hq
    simp only [ht']
    exact blockValue_yields value hvalue rest'.behind (by omega) hk fun r hr => ih hr (by omega)

/-! ### Mappings in braces -/

/-- A comma leads on to the next key. -/
lemma flowEntries_comma (h : p.kind = .flowEntry) :
    flowEntries false (fuel + 1) p = flowEntries true (fuel + 1) p.next := by
  rw [flowEntries.eq_def false, flowEntries.eq_def true]
  simp only [h, Bool.false_eq_true, if_false, if_true]
  generalize p.next = q
  split
  next hend => simp [hend]
  next => rfl

lemma flowEntries_end {first : Bool} (h : p.kinds = TokenKind.flowMapEnd :: rest) (hf : 0 < fuel) :
    Yields rest (AllName []) (flowEntries first fuel p) := by
  obtain ⟨fuel, rfl⟩ := Nat.exists_eq_succ_of_ne_zero hf.ne'
  refine ⟨[], p.next, ?_, kinds_next h, fun d => .nil⟩
  rw [flowEntries.eq_def]
  simp [kind_of_kinds h]

/-- A key with a sequence in brackets, and the rest of the mapping. -/
lemma flowEntries_yields {f : Field} {fs : List (Field × List String)} {rest' : List TokenKind}
    (h : p.kinds = TokenKind.key :: .scalar plain f.name.toList :: .value :: .flowSeqStart ::
      (flowKinds plain ss ++ TokenKind.flowSeqEnd :: rest))
    (hrest : ∀ q, q.kinds = rest → Yields rest' (AllName fs) (flowEntries false fuel q))
    (hf : ss.length + 1 < fuel) :
    Yields rest' (AllName ((f, ss) :: fs)) (flowEntries true (fuel + 1) p) := by
  have hkey := kinds_next h
  rw [flowEntries.eq_def]
  simp only [kind_of_kinds h, if_true, Option.bind_eq_bind, Option.bind_some, kind_of_kinds hkey]
  refine (node_scalar hkey (by omega)).bind fun k q hq hk => ?_
  have hvalue := kinds_next hq
  simp only [kind_of_kinds hq, kind_of_kinds hvalue]
  exact .entry hk (node_flow hvalue hf) hrest

end lists

/-! ### Documents -/

section documents

variable {k : TokenKind} {ks ls : List TokenKind} {fs : List (Field × List String)}
  {ts : List Token} {text : String}

/-- A mapping that names lists, in whatever document. -/
def IsRoot (fs : List (Field × List String)) (n : Node) : Prop :=
  ∃ m es, n = .map m es ∧ AllName fs es

lemma more_of_streamEnd {fuel : ℕ} (h : ts.map (·.kind) = [.streamEnd]) (hf : 0 < fuel) :
    more fuel ts = some [] := by
  obtain ⟨fuel, rfl⟩ := Nat.exists_eq_succ_of_ne_zero hf.ne'
  obtain ⟨⟨k, m, stop⟩, us, rfl, rfl, -⟩ := List.map_eq_cons_iff.mp h
  simp [more, skipEnds]

lemma documents_of_bare (hts : ts.map (·.kind) = k :: ks) (hk : isBoundary k = false) :
    documents ts = ((start ts defaultTags).oneDocument (4 * ts.length + 8)).bind fun (d, us) =>
      (more (4 * ts.length + 8) us).map (d :: ·) := by
  unfold documents
  split
  case h_4 =>
    simp only [Option.map_eq_bind]
    rfl
  all_goals
    obtain ⟨rfl, -⟩ := List.cons.inj hts
    exact nomatch hk

/-- The rules of a text whose one node is a mapping. -/
lemma parse_of_root (ht : tokens text.toList = some ts) (hk : isBoundary k = false)
    (hts : ts.map (·.kind) = k :: ks) (honce : (fs.map Prod.fst).Nodup)
    (hroot : ∀ p, p.kinds = k :: ks →
      Yields [.streamEnd] (IsRoot fs) (node true false (4 * (k :: ks).length + 8) p)) :
    RuleFile.parse text = .ok (RuleFile.rules fs) := by
  obtain ⟨n, q, hnode, hq, m, es, rfl, hes⟩ := hroot (start ts defaultTags) hts
  rw [← hts, List.length_map] at hnode
  have hone : (start ts defaultTags).oneDocument (4 * ts.length + 8) =
      some (q.document (.map m es), q.toks) := by
    rw [oneDocument, hnode]
    rfl
  have hdocs : documents ts = some [q.document (.map m es)] := by
    simp only [documents_of_bare hts hk, hone, Option.bind_some,
      more_of_streamEnd hq (Nat.succ_pos _), Option.map_some]
  rw [RuleFile.parse_eq ht hdocs]
  exact (RuleFile.decode_eq_ok_iff rfl).mpr ⟨fs, ⟨hes _, honce⟩, rfl⟩

/-- The rules of a block mapping. -/
theorem parse_of_block (ht : tokens text.toList = some ts) (hls : Entered ls fs)
    (hts : ts.map (·.kind) = TokenKind.blockMapStart :: (ls ++ [TokenKind.blockEnd, .streamEnd]))
    (honce : (fs.map Prod.fst).Nodup) : RuleFile.parse text = .ok (RuleFile.rules fs) := by
  refine parse_of_root ht rfl hts honce fun p hp => ?_
  rw [node_eq_content hp rfl rfl nofun, content, kind_of_kinds hp]
  exact (blockEntries_yields hls (kinds_next hp) (by simp; omega)).map
    fun es hes => ⟨_, es, rfl, hes⟩

/-- The rules of a mapping in braces. -/
theorem parse_of_flow {plain : Bool} {f g : Field} {ss us : List String}
    (ht : tokens text.toList = some ts) (hts : ts.map (·.kind) = TokenKind.flowMapStart :: .key ::
      .scalar plain f.name.toList :: .value :: .flowSeqStart :: (flowKinds plain ss ++
        TokenKind.flowSeqEnd :: .flowEntry :: .key :: .scalar plain g.name.toList :: .value ::
          .flowSeqStart :: (flowKinds plain us ++ [TokenKind.flowSeqEnd, .flowMapEnd, .streamEnd])))
    (hfg : f ≠ g) : RuleFile.parse text = .ok (RuleFile.rules [(f, ss), (g, us)]) := by
  refine parse_of_root ht rfl hts (by simpa using hfg) fun p hp => ?_
  rw [node_eq_content hp rfl rfl nofun, content, kind_of_kinds hp]
  have := length_flowKinds plain ss
  have := length_flowKinds plain us
  refine Yields.map (S := AllName [(f, ss), (g, us)]) ?_ fun es hes => ⟨_, es, rfl, hes⟩
  refine flowEntries_yields (kinds_next hp) (fun q hq => ?_) (by simp; omega)
  rw [Nat.add_succ, flowEntries_comma (kind_of_kinds hq)]
  refine flowEntries_yields (kinds_next hq) (fun r hr => ?_) (by simp; omega)
  exact flowEntries_end hr (by simp)

end documents

end ExampleSuite.Yaml.Parse
