import ExampleSuite.Proofs.Answer
import ExampleSuite.Proofs.Arguments

/-!
The command lines that are read, and what they are read as.

A command line falls into groups: an option with its value, or flags. It is read if and only if no
option but those that can be repeated has two values, each value is one that its option can have,
and a variable that is looked at is not empty.
-/

namespace ExampleSuite

namespace Arguments

/-! ### What has been given -/

/-- The values of each option, in order, with one more at the end of one option. -/
def adding (vs : Opt → List Bytes) (o : Opt) (v : Bytes) (p : Opt) : List Bytes :=
  if p = o then vs p ++ [v] else vs p

/-- A value that its option can have. -/
def Valid (v : Bytes) : Opt → Prop
  | .examples | .interpreter | .rules => v ≠ []
  | .extension | .skip | .skipPattern => ∃ s, v = .ofString s
  | .timeout => ∃ n, Numeral v n
  | .color => ∃ c : ColorMode, v = .ofString c.word

/-- No option but those that can be repeated has two values, and each value is one that its option
can have. -/
structure Proper (vs : Opt → List Bytes) : Prop where
  once (o : Opt) : o.repeats = false → (vs o).length ≤ 1
  valid (o : Opt) : ∀ v ∈ vs o, Valid v o

/-- What has been given once the options have certain values and a flag has come so many times. -/
structure Sums (vs : Opt → List Bytes) (n : ℕ) (g : Given) : Prop where
  examples : g.examples = (vs .examples).head?
  interpreter : g.interpreter = (vs .interpreter).head?
  rules : g.rules = (vs .rules).head?
  extension : g.extension.map .ofString = (vs .extension).head?
  timeout : (vs .timeout).head?.elim (g.timeout = none) fun v =>
    ∃ n, Numeral v n ∧ g.timeout = some n
  color : g.color.map (.ofString ·.word) = (vs .color).head?
  skips : g.skips.map .ofString = vs .skip
  patterns : g.patterns.map .ofString = vs .skipPattern
  verbose : g.verbose = min 255 n
  seen (o : Opt) : .opt o ∈ g.seen ↔ vs o ≠ []

section given

variable {vs : Opt → List Bytes} {n : ℕ} {g g' : Given} {o : Opt} {v : Bytes}

lemma Stored.valid (h : Stored g v o g') : Valid v o := by
  cases h with
  | examples h => exact h
  | interpreter h => exact h
  | rules h => exact h
  | extension h => exact ⟨_, h⟩
  | skip h => exact ⟨_, h⟩
  | skipPattern h => exact ⟨_, h⟩
  | timeout h => exact ⟨_, h⟩
  | color h => exact ⟨_, h⟩

lemma Valid.stored (h : Valid v o) (g : Given) : ∃ g', Stored g v o g' := by
  cases o with
  | examples => exact ⟨_, .examples h⟩
  | interpreter => exact ⟨_, .interpreter h⟩
  | rules => exact ⟨_, .rules h⟩
  | extension => exact ⟨_, .extension h.choose_spec⟩
  | skip => exact ⟨_, .skip h.choose_spec⟩
  | skipPattern => exact ⟨_, .skipPattern h.choose_spec⟩
  | timeout => exact ⟨_, .timeout h.choose_spec⟩
  | color => exact ⟨_, .color h.choose_spec⟩

lemma Proper.adding (hp : Proper vs) (hv : Valid v o) (ho : o.repeats = false → vs o = []) :
    Proper (adding vs o v) where
  once p hr := by
    unfold Arguments.adding
    split_ifs with h
    · subst h
      simp [ho hr]
    · exact hp.once p hr
  valid p x hx := by
    unfold Arguments.adding at hx
    split_ifs at hx with h
    · subst h
      rcases List.mem_append.mp hx with hx | hx
      · exact hp.valid p x hx
      · exact List.mem_singleton.mp hx ▸ hv
    · exact hp.valid p x hx

lemma mem_noting {w x : Switch} : x ∈ (g.noting w).seen ↔ x ∈ g.seen ∨ x = w := by
  unfold Given.noting
  split_ifs with h
  · rw [List.contains_iff_mem] at h
    exact ⟨.inl, fun hx => hx.elim id fun hx => hx ▸ h⟩
  · simp

lemma noting_eq (g : Given) (w : Switch) : g.noting w = { g with seen := (g.noting w).seen } := by
  unfold Given.noting
  split_ifs <;> rfl

lemma Stored.sums (h : Stored (g.noting (.opt o)) v o g') (hs : Sums vs n g)
    (ho : o.repeats = false → vs o = []) : Sums (Arguments.adding vs o v) n g' := by
  have hseen (p : Opt) :
      .opt p ∈ (g.noting (.opt o)).seen ↔ Arguments.adding vs o v p ≠ [] := by
    rw [mem_noting, hs.seen, Switch.opt.injEq]
    unfold Arguments.adding
    split_ifs with hp <;> simp [hp]
  rw [noting_eq] at h
  generalize (g.noting (.opt o)).seen = l at h hseen
  obtain ⟨examples, interpreter, rules, extension, timeout, color, skips, patterns, verbose, -⟩ :=
    hs
  -- each value changes one field, and no single option had a value before
  cases h <;> simp only [Opt.repeats, forall_const, reduceCtorEq, false_implies] at ho <;>
    constructor <;> first | assumption | simp [Arguments.adding, *]

lemma sums_louder (hs : Sums vs n g) (k : ℕ) (p : Option (Opt × Option Bytes)) (b : Bool) :
    ∃ g', State.louder^[k] ⟨g, p, b⟩ = ⟨g', p, b⟩ ∧ Sums vs (n + k) g' := by
  induction k with
  | zero => exact ⟨g, rfl, hs⟩
  | succ k ih =>
    obtain ⟨g₁, hg, hs⟩ := ih
    rw [Function.iterate_succ_apply', hg]
    refine ⟨_, rfl, ?_⟩
    have hseen (o : Opt) : .opt o ∈ (g₁.noting (.flag .verbose)).seen ↔ vs o ≠ [] := by
      rw [mem_noting, hs.seen]
      simp
    rw [noting_eq]
    generalize (g₁.noting (.flag .verbose)).seen = l at hseen
    obtain ⟨examples, interpreter, rules, extension, timeout, color, skips, patterns, verbose, -⟩ :=
      hs
    constructor
    case verbose =>
      show min 255 (g₁.verbose + 1) = min 255 (n + (k + 1))
      omega
    all_goals assumption

/-- Giving an option one more value is well if and only if the values of all options are. -/
lemma sums_put (hp : Proper vs) (hs : Sums vs n g) {b : Bool} {t : State}
    (h : Leads (put o v) ⟨g, none, b⟩ t) :
    Proper (adding vs o v) ∧ ∃ g', t = ⟨g', none, b⟩ ∧ Sums (adding vs o v) n g' := by
  obtain ⟨hseen, g', hg, rfl⟩ := leads_put.mp h
  have ho (hr : o.repeats = false) : vs o = [] := by
    by_contra hne
    exact hseen hr ((hs.seen o).mpr hne)
  exact ⟨hp.adding hg.valid ho, g', rfl, hg.sums hs ho⟩

lemma exists_put (hs : Sums vs n g) (hp : Proper (adding vs o v)) (b : Bool) :
    ∃ t, Leads (put o v) ⟨g, none, b⟩ t := by
  have hlast : adding vs o v o = vs o ++ [v] := if_pos rfl
  obtain ⟨g', hg⟩ := (hp.valid o v (by simp [hlast])).stored (g.noting (.opt o))
  refine ⟨_, leads_put.mpr ⟨fun hr hm => ?_, g', hg, rfl⟩⟩
  have hlen := hp.once o hr
  have hpos := List.length_pos_iff.mpr ((hs.seen o).mp hm)
  rw [hlast, List.length_append, List.length_singleton] at hlen
  omega

end given

/-! ### Groups of arguments -/

/-- Arguments that belong together. -/
inductive Group where
  /-- An option with its value attached. -/
  | attached (o : Opt) (v : Bytes)
  /-- An option with its value as the next argument. -/
  | separate (o : Opt) (v : Bytes) (free : Free v)
  | verbose
  /-- The short flag, given once and `n` times more. -/
  | cluster (n : ℕ)

namespace Group

def words : Group → List Bytes
  | attached o v => [.ofString ("--" ++ o.name ++ "=") ++ v]
  | separate o v _ => [.ofString ("--" ++ o.name), v]
  | verbose => [.ofString "--verbose"]
  | cluster n => [.ofString (String.ofList ('-' :: List.replicate (n + 1) 'v'))]

/-- The value for an option. -/
def value? (o : Opt) : Group → Option Bytes
  | attached p v | separate p v _ => if p = o then some v else none
  | _ => none

def flags : Group → ℕ
  | verbose => 1
  | cluster n => n + 1
  | _ => 0

/-- The arguments that groups are, with or without the mark that ends all options. -/
def line (gs : List Group) (closed : Bool) : List Bytes :=
  gs.flatMap words ++ if closed then [.ofString "--"] else []

/-- The values of an option, in order. -/
def values (gs : List Group) (o : Opt) : List Bytes := gs.filterMap (value? o)

def allFlags (gs : List Group) : ℕ := (gs.map flags).sum

variable {gs hs : List Group} {o : Opt} {v : Bytes}

lemma values_append (gs hs : List Group) (o : Opt) :
    values (gs ++ hs) o = values gs o ++ values hs o := List.filterMap_append

lemma values_concat {x : Group} (hx : ∀ p, x.value? p = if o = p then some v else none) :
    values (gs ++ [x]) = adding (values gs) o v := by
  funext p
  by_cases h : o = p
  · simp [values, adding, hx, h]
  · simp [values, adding, hx, h, Ne.symm h]

lemma values_concat_none {x : Group} (hx : ∀ p, x.value? p = none) :
    values (gs ++ [x]) = values gs := by
  funext p
  simp [values, hx]

lemma allFlags_concat (x : Group) : allFlags (gs ++ [x]) = allFlags gs + x.flags := by
  simp [allFlags]

lemma words_attached :
    words (.attached o v) = [0x2D :: 0x2D :: (Bytes.ofString o.name ++ 0x3D :: v)] := by
  simp [words, Bytes.ofString, Utf8.encode]
  rfl

lemma words_separate (free : Free v) :
    words (.separate o v free) = [0x2D :: 0x2D :: Bytes.ofString o.name, v] := by
  simp [words, Bytes.ofString, Utf8.encode]
  rfl

lemma words_verbose : words .verbose = [0x2D :: 0x2D :: Bytes.ofString Flag.verbose.name] := rfl

lemma words_cluster (n : ℕ) : words (.cluster n) = [0x2D :: List.replicate (n + 1) 0x76] := by
  rw [words, Bytes.ofString, String.toList_ofList, ← encode_replicate]
  rfl

/-- The state behind the arguments of groups, of which the last may still be pending. -/
inductive Reached : List Group → State → Prop where
  | settled {gs : List Group} {g : Given} {b : Bool} (proper : Proper (values gs))
      (sums : Sums (values gs) (allFlags gs) g) : Reached gs ⟨g, none, b⟩
  | pending {gs : List Group} {o : Opt} {v : Bytes} {free : Free v} {g : Given} {b : Bool}
      (proper : Proper (values gs)) (sums : Sums (values gs) (allFlags gs) g) :
      Reached (gs ++ [separate o v free]) ⟨g, some (o, some v), b⟩

variable {s t : State}

lemma Reached.of_settle (h : Reached gs s) (hl : Leads settle s t) : Proper (values gs) ∧
    ∃ g, t = ⟨g, none, s.ended⟩ ∧ Sums (values gs) (allFlags gs) g := by
  cases h with
  | @settled _ g b proper sums =>
    obtain rfl := (leads_settle_of_none rfl).mp hl
    exact ⟨proper, g, rfl, sums⟩
  | @pending gs o v free g b proper sums =>
    rw [leads_settle] at hl
    obtain ⟨hp, g', rfl, hs⟩ := sums_put proper sums hl
    rw [values_concat (o := o) (v := v) fun _ => rfl, allFlags_concat]
    exact ⟨hp, g', rfl, hs⟩

lemma Reached.exists_settle (h : Reached gs s) (hp : Proper (values gs)) :
    ∃ t, Leads settle s t := by
  cases h with
  | @settled _ g b proper sums => exact ⟨_, (leads_settle_of_none (s := ⟨g, none, b⟩) rfl).mpr rfl⟩
  | @pending gs o v free g b proper sums =>
    rw [values_concat (o := o) (v := v) fun _ => rfl] at hp
    obtain ⟨t, ht⟩ := exists_put sums hp b
    exact ⟨t, (leads_settle (s := ⟨g, some (o, some v), b⟩)).mpr ht⟩

lemma leads_forM_singleton {a : Bytes} : Leads ([a].forM take) s t ↔ Leads (take a) s t := by
  rw [leads_forM_cons]
  exact ⟨fun ⟨u, hu, ht⟩ => leads_pure.mp ht ▸ hu, fun h => ⟨t, h, leads_pure.mpr rfl⟩⟩

/-- A group of `k` flags, taken once all before it is settled. -/
lemma Reached.louder (h : Reached gs s) (hl : Leads settle s t) {x : Group} {k : ℕ}
    (hv : ∀ p, x.value? p = none) (hk : x.flags = k) : Reached (gs ++ [x]) (State.louder^[k] t) ∧
      (State.louder^[k] t).ended = s.ended := by
  obtain ⟨hp, g, rfl, hs⟩ := h.of_settle hl
  obtain ⟨g', hg, hs⟩ := sums_louder hs k none s.ended
  rw [hg]
  refine ⟨.settled ?_ ?_, rfl⟩
  · rwa [values_concat_none hv]
  · rwa [values_concat_none hv, allFlags_concat, hk]

/-- The arguments of one more group. -/
lemma Reached.group (h : Reached gs s) (he : s.ended = false) {x : Group}
    (hl : Leads (x.words.forM take) s t) : Reached (gs ++ [x]) t ∧ t.ended = false := by
  cases x with
  | attached o v =>
    rw [words_attached, leads_forM_singleton, leads_take_attached he] at hl
    obtain ⟨w, hw, hput⟩ := hl
    obtain ⟨hp, g, rfl, hs⟩ := h.of_settle hw
    obtain ⟨hp, g', rfl, hs⟩ := sums_put hp hs hput
    refine ⟨.settled ?_ ?_, he⟩
    · rwa [values_concat (o := o) (v := v) fun _ => rfl]
    · rwa [values_concat (o := o) (v := v) fun _ => rfl, allFlags_concat]
  | separate o v free =>
    rw [words_separate, leads_forM_cons] at hl
    obtain ⟨u, hu, ht⟩ := hl
    obtain ⟨w, hw, rfl⟩ := (leads_take_opened he o).mp hu
    obtain ⟨hp, g, rfl, hs⟩ := h.of_settle hw
    rw [leads_forM_singleton] at ht
    obtain ⟨_, ⟨⟩, rfl⟩ := (leads_take_free (s := ⟨g, some (o, none), s.ended⟩) he free).mp ht
    exact ⟨.pending hp hs, he⟩
  | verbose =>
    rw [words_verbose, leads_forM_singleton, leads_take_verbose he] at hl
    obtain ⟨w, hw, rfl⟩ := hl
    obtain ⟨hr, hended⟩ := h.louder hw (x := verbose) (fun _ => rfl) rfl
    exact ⟨hr, hended.trans he⟩
  | cluster n =>
    rw [words_cluster, leads_forM_singleton, leads_take_cluster he] at hl
    obtain ⟨w, hw, rfl⟩ := hl
    obtain ⟨hr, hended⟩ := h.louder hw (x := cluster n) (fun _ => rfl) rfl
    exact ⟨hr, hended.trans he⟩

lemma proper_of_append (h : Proper (values (gs ++ hs))) : Proper (values gs) where
  once o hr := by
    have hlen := h.once o hr
    rw [values_append, List.length_append] at hlen
    omega
  valid o v hv := h.valid o v (by rw [values_append]; exact List.mem_append_left _ hv)

lemma Reached.exists_group (h : Reached gs s) (he : s.ended = false) {x : Group}
    (hp : Proper (values (gs ++ [x]))) : ∃ t, Leads (x.words.forM take) s t := by
  obtain ⟨u, hu⟩ := h.exists_settle (proper_of_append hp)
  obtain ⟨-, g, rfl, hs⟩ := h.of_settle hu
  cases x with
  | attached o v =>
    rw [values_concat (o := o) (v := v) fun _ => rfl] at hp
    obtain ⟨t, ht⟩ := exists_put hs hp s.ended
    rw [words_attached]
    exact ⟨t, leads_forM_singleton.mpr ((leads_take_attached he o v).mpr ⟨_, hu, ht⟩)⟩
  | separate o v free =>
    rw [words_separate]
    refine ⟨_, (leads_forM_cons ..).mpr ⟨_, (leads_take_opened he o).mpr ⟨_, hu, rfl⟩,
      leads_forM_singleton.mpr ((leads_take_free ?_ free).mpr ⟨o, rfl, rfl⟩)⟩⟩
    exact he
  | verbose =>
    rw [words_verbose]
    exact ⟨_, leads_forM_singleton.mpr ((leads_take_verbose he).mpr ⟨_, hu, rfl⟩)⟩
  | cluster n =>
    rw [words_cluster]
    exact ⟨_, leads_forM_singleton.mpr ((leads_take_cluster he n).mpr ⟨_, hu, rfl⟩)⟩

lemma leads_forM_append {l m : List Bytes} :
    Leads ((l ++ m).forM take) s t ↔ ∃ u, Leads (l.forM take) s u ∧ Leads (m.forM take) u t := by
  induction l generalizing s with
  | nil =>
    constructor
    · exact fun h => ⟨s, leads_pure.mpr rfl, h⟩
    · rintro ⟨u, hu, h⟩
      obtain rfl := leads_pure.mp hu
      exact h
  | cons a l ih =>
    rw [List.cons_append]
    simp only [leads_forM_cons, ih]
    exact ⟨fun ⟨u, hu, w, hw, ht⟩ => ⟨w, ⟨u, hu, hw⟩, ht⟩,
      fun ⟨w, ⟨u, hu, hw⟩, ht⟩ => ⟨u, hu, w, hw, ht⟩⟩

/-- The arguments of groups, taken one group after the other. -/
lemma Reached.groups (h : Reached gs s) (he : s.ended = false)
    (hl : Leads ((hs.flatMap Group.words).forM take) s t) :
    Reached (gs ++ hs) t ∧ t.ended = false := by
  induction hs generalizing gs s with
  | nil =>
    obtain rfl := leads_pure.mp hl
    rw [List.append_nil]
    exact ⟨h, he⟩
  | cons x hs ih =>
    rw [List.flatMap_cons, leads_forM_append] at hl
    obtain ⟨u, hu, hl⟩ := hl
    obtain ⟨h, he⟩ := h.group he hu
    rw [List.append_cons]
    exact ih h he hl

lemma Reached.exists_groups (h : Reached gs s) (he : s.ended = false)
    (hp : Proper (values (gs ++ hs))) : ∃ t, Leads ((hs.flatMap Group.words).forM take) s t := by
  induction hs generalizing gs s with
  | nil => exact ⟨s, leads_pure.mpr rfl⟩
  | cons x hs ih =>
    rw [List.append_cons] at hp
    obtain ⟨u, hu⟩ := h.exists_group he (proper_of_append hp)
    obtain ⟨h, he⟩ := h.group he hu
    obtain ⟨t, ht⟩ := ih h he hp
    rw [List.flatMap_cons]
    exact ⟨t, leads_forM_append.mpr ⟨u, hu, ht⟩⟩

lemma line_cons (x : Group) (hs : List Group) (closed : Bool) :
    line (x :: hs) closed = x.words ++ line hs closed := by
  rw [line, List.flatMap_cons, List.append_assoc, line]

/-- Behind the mark that ends all options nothing may come. -/
lemma eq_nil_of_ended {args : List Bytes} (he : s.ended = true) (hl : Leads (args.forM take) s t) :
    args = [] := by
  cases args with
  | nil => rfl
  | cons a args =>
    obtain ⟨u, hu, -⟩ := (leads_forM_cons ..).mp hl
    unfold take at hu
    rw [leads_get_bind, if_pos he] at hu
    cases hu

/-- An option alone is settled with the next argument as its value or not at all. -/
lemma exists_value {g : Given} {b : Bool} {args : List Bytes} {u : State} (hb : b = false)
    (hl : Leads (args.forM take) ⟨g, some (o, none), b⟩ t) (hu : Leads settle t u) :
    ∃ v rest, args = v :: rest ∧ Free v ∧
      Leads (take v) ⟨g, some (o, none), b⟩ ⟨g, some (o, some v), b⟩ ∧
      Leads (rest.forM take) ⟨g, some (o, some v), b⟩ t := by
  have stuck {b : Bool} {y : State} : ¬ Leads settle ⟨g, some (o, none), b⟩ y :=
    fun hy => leads_settle.mp hy
  cases args with
  | nil =>
    obtain rfl := leads_pure.mp hl
    exact absurd hu stuck
  | cons v rest =>
    obtain ⟨z, hz, hrest⟩ := (leads_forM_cons ..).mp hl
    cases taken_of_leads (s := ⟨g, some (o, none), b⟩) hb hz with
    | closed =>
      obtain rfl := eq_nil_of_ended rfl hrest
      obtain rfl := leads_pure.mp hrest
      exact absurd hu stuck
    | attached settled => exact absurd settled stuck
    | opened settled => exact absurd settled stuck
    | verbose settled => exact absurd settled stuck
    | cluster settled => exact absurd settled stuck
    | value free waiting =>
      cases waiting
      exact ⟨v, rest, rfl, free, hz, hrest⟩

/-- Arguments that are taken to the end are those of groups. -/
lemma Reached.exists_line {n : ℕ} {args : List Bytes} {u : State} (hn : args.length ≤ n)
    (h : Reached gs s) (he : s.ended = false) (hl : Leads (args.forM take) s t)
    (hu : Leads settle t u) : ∃ hs closed, args = line hs closed := by
  induction n generalizing gs s args with
  | zero => exact ⟨[], false, List.length_eq_zero_iff.mp (by omega)⟩
  | succ n ih =>
    -- behind the group that the arguments begin with there are further groups
    have next (x : Group) {m : List Bytes} {w : State} (hw : Leads (x.words.forM take) s w)
        (hm : m.length ≤ n) (hl : Leads (m.forM take) w t) :
        ∃ hs closed, x.words ++ m = line hs closed := by
      obtain ⟨hr, he⟩ := h.group he hw
      obtain ⟨hs, closed, rfl⟩ := ih hm hr he hl
      exact ⟨x :: hs, closed, (line_cons x hs closed).symm⟩
    cases args with
    | nil => exact ⟨[], false, rfl⟩
    | cons a args =>
      rw [List.length_cons] at hn
      obtain ⟨w, hw, hrest⟩ := (leads_forM_cons ..).mp hl
      clear hl
      have alone : Leads ([a].forM take) s w := leads_forM_singleton.mpr hw
      cases taken_of_leads he hw with
      | closed =>
        obtain rfl := eq_nil_of_ended rfl hrest
        exact ⟨[], true, rfl⟩
      | @attached o v =>
        rw [← words_attached] at alone
        simpa [words_attached] using next _ alone (by omega) hrest
      | verbose =>
        rw [← words_verbose] at alone
        exact next _ alone (by omega) hrest
      | @cluster k =>
        rw [← words_cluster] at alone
        simpa [words_cluster] using next _ alone (by omega) hrest
      | @opened o y settled =>
        obtain ⟨-, g, rfl, -⟩ := h.of_settle settled
        obtain ⟨v, rest, rfl, free, hv, hrest⟩ := exists_value he hrest hu
        rw [List.length_cons] at hn
        have hg : Leads ((words (.separate o v free)).forM take) s
            ⟨g, some (o, some v), s.ended⟩ := by
          rw [words_separate]
          exact (leads_forM_cons ..).mpr ⟨_, hw, leads_forM_singleton.mpr hv⟩
        simpa [words_separate] using next _ hg (by omega) hrest
      | value free waiting => cases h <;> cases waiting

end Group

/-! ### Variables -/

section env

variable {vs : Opt → List Bytes} {n : ℕ} {g : Given} {b : Bool} {s t : State}

lemma leads_fromEnv_of_mem {o : Opt} {v : Option Bytes} (h : .opt o ∈ s.given.seen) :
    Leads (fromEnv o v) s t ↔ t = s := by
  unfold fromEnv
  cases v with
  | none => exact leads_pure
  | some x =>
    rw [leads_get_bind, if_neg (by simpa using h)]
    exact leads_pure

lemma leads_fromEnv_of_notMem {o : Opt} {v : Option Bytes} (h : .opt o ∉ s.given.seen) :
    Leads (fromEnv o v) s t ↔ v.elim (t = s) fun x => Leads (store o x) s t := by
  unfold fromEnv
  cases v with
  | none => exact leads_pure
  | some x =>
    rw [leads_get_bind, if_pos (by simpa using h)]
    exact .rfl

lemma leads_fromEnv_examples (hs : Sums vs n g) {v : Option Bytes} :
    Leads (fromEnv .examples v) ⟨g, none, b⟩ t ↔ (vs .examples = [] → v ≠ some []) ∧
      t = ⟨{ g with examples := (vs .examples).head?.or v }, none, b⟩ := by
  have hseen := hs.seen .examples
  have hg := hs.examples
  cases hv : vs .examples with
  | nil =>
    rw [hv] at hg hseen
    rw [leads_fromEnv_of_notMem (by simp [hseen])]
    cases v with
    | none => simp [← hg]
    | some x => simp [store, leads_path, modifyGiven]
  | cons y ys =>
    rw [hv] at hg hseen
    have hsame : { g with examples := some y } = g := by rw [← hg.trans List.head?_cons]
    rw [leads_fromEnv_of_mem (by simp [hseen])]
    simp [hsame]

lemma leads_fromEnv_interpreter (hs : Sums vs n g) {v x : Option Bytes} :
    Leads (fromEnv .interpreter v) ⟨{ g with examples := x }, none, b⟩ t ↔
      (vs .interpreter = [] → v ≠ some []) ∧
      t = ⟨{ g with examples := x, interpreter := (vs .interpreter).head?.or v }, none, b⟩ := by
  have hseen := hs.seen .interpreter
  have hg := hs.interpreter
  cases hv : vs .interpreter with
  | nil =>
    rw [hv] at hg hseen
    rw [leads_fromEnv_of_notMem (by simp [hseen])]
    cases v with
    | none => simp [← hg]
    | some x => simp [store, leads_path, modifyGiven]
  | cons y ys =>
    rw [hv] at hg hseen
    have hsame : { g with examples := x, interpreter := some y } = { g with examples := x } := by
      rw [← hg.trans List.head?_cons]
    rw [leads_fromEnv_of_mem (by simp [hseen])]
    simp [hsame]

end env

/-! ### The command line -/

/-- The values are well, and so are those of the variables that are looked at. -/
structure Fits (e : Help.Env) (gs : List Group) : Prop where
  proper : Proper (Group.values gs)
  examples : Group.values gs .examples = [] → e.examples ≠ some []
  interpreter : Group.values gs .interpreter = [] → e.interpreter ≠ some []

lemma leads_takeAll {e : Help.Env} {args : List Bytes} {s t : State} :
    Leads (takeAll e args) s t ↔ ∃ u, Leads (args.forM take) s u ∧ ∃ w, Leads settle u w ∧
      ∃ x, Leads (fromEnv .examples e.examples) w x ∧
        Leads (fromEnv .interpreter e.interpreter) x t := by
  unfold takeAll
  simp only [leads_bind]

lemma Group.reached_start : Group.Reached [] .start := by
  refine .settled ⟨fun _ _ => by simp [Group.values], fun _ => by simp [Group.values]⟩ ?_
  constructor <;> simp [Group.values, Group.allFlags]

namespace Group

variable {gs : List Group} {closed : Bool} {s : State}

lemma Reached.close (h : Reached gs s) : Reached gs { s with ended := true } := by
  cases h with
  | settled proper sums => exact .settled proper sums
  | pending proper sums => exact .pending proper sums

/-- The arguments of groups lead behind them. -/
lemma reached_line (h : Leads ((line gs closed).forM take) .start s) : Reached gs s := by
  obtain ⟨u, hu, h⟩ := leads_forM_append.mp h
  obtain ⟨hr, he⟩ := reached_start.groups rfl hu
  cases closed with
  | false =>
    obtain rfl := leads_pure.mp h
    exact hr
  | true =>
    obtain rfl := (leads_take_closed he).mp (leads_forM_singleton.mp h)
    exact hr.close

lemma exists_line (hp : Proper (values gs)) (closed : Bool) :
    ∃ s, Leads ((line gs closed).forM take) .start s := by
  obtain ⟨u, hu⟩ := reached_start.exists_groups rfl (show Proper (values ([] ++ gs)) from hp)
  obtain ⟨-, he⟩ := reached_start.groups rfl hu
  cases closed with
  | false => exact ⟨u, leads_forM_append.mpr ⟨u, hu, leads_pure.mpr rfl⟩⟩
  | true =>
    have close := leads_forM_singleton.mpr ((leads_take_closed he).mpr rfl)
    exact ⟨_, leads_forM_append.mpr ⟨u, hu, close⟩⟩

end Group

end Arguments

namespace Options

open Arguments

/-- What the arguments of groups give: each value on the line, else that of the variable, else the
standard value. -/
structure Gives (e : Help.Env) (gs : List Group) (o : Options) : Prop where
  examples :
    o.examples = ((Group.values gs .examples).head?.or e.examples).getD (.ofString "examples")
  interpreter :
    o.interpreter =
      ((Group.values gs .interpreter).head?.or e.interpreter).getD (.ofString "./franz")
  extension : .ofString o.extension = (Group.values gs .extension).head?.getD (.ofString "franz")
  timeout : (Group.values gs .timeout).head?.elim (o.timeout = 10) (Numeral · o.timeout)
  skips : o.skips.map .ofString = Group.values gs .skip
  patterns : o.patterns.map .ofString = Group.values gs .skipPattern
  rules : o.rules = (Group.values gs .rules).head?
  color : .ofString o.color.word = (Group.values gs .color).head?.getD (.ofString "auto")
  verbose : o.verbose = min 255 (Group.allFlags gs)

lemma gives_ofGiven {e : Help.Env} {gs : List Group} {g : Given}
    (hs : Sums (Group.values gs) (Group.allFlags gs) g) :
    Gives e gs (ofGiven { g with
      examples := (Group.values gs .examples).head?.or e.examples
      interpreter := (Group.values gs .interpreter).head?.or e.interpreter }) where
  examples := rfl
  interpreter := rfl
  extension := by
    rw [← hs.extension]
    cases g.extension <;> simp [ofGiven, Config.defaultExtension]
  timeout := by
    have ht := hs.timeout
    cases hv : (Group.values gs .timeout).head? with
    | none =>
      rw [hv] at ht
      simp only [Option.elim_none] at ht ⊢
      simp [ofGiven, ht, Config.defaultTimeout]
    | some v =>
      rw [hv] at ht
      obtain ⟨n, hn, hg⟩ := ht
      simpa [ofGiven, hg] using hn
  skips := hs.skips
  patterns := hs.patterns
  rules := hs.rules
  color := by
    rw [← hs.color]
    cases g.color <;> simp [ofGiven, ColorMode.word]
  verbose := hs.verbose

lemma read_eq_ok_iff {e : Help.Env} {args : List Bytes} {o : Options} :
    read e args = .ok o ↔ ∃ t, Leads (takeAll e args) .start t ∧ o = ofGiven t.given := by
  unfold read Leads
  cases (takeAll e args).run .start with
  | ok a t => simp [eq_comm]
  | error p t => simp

/-- The arguments of groups are read if and only if the values are well, and as what they give. -/
lemma read_line {e : Help.Env} {gs : List Group} {closed : Bool} :
    (∀ o, read e (Group.line gs closed) = .ok o → Fits e gs ∧ Gives e gs o) ∧
      (Fits e gs → ∃ o, read e (Group.line gs closed) = .ok o) := by
  constructor
  · intro o ho
    obtain ⟨t, ht, rfl⟩ := read_eq_ok_iff.mp ho
    obtain ⟨u, hu, w, hw, x, hx, ht⟩ := leads_takeAll.mp ht
    obtain ⟨hp, g, rfl, hs⟩ := (Group.reached_line hu).of_settle hw
    obtain ⟨he, rfl⟩ := (leads_fromEnv_examples hs).mp hx
    obtain ⟨hi, rfl⟩ := (leads_fromEnv_interpreter hs).mp ht
    exact ⟨⟨hp, he, hi⟩, gives_ofGiven hs⟩
  · rintro ⟨hp, he, hi⟩
    obtain ⟨u, hu⟩ := Group.exists_line hp closed
    obtain ⟨w, hw⟩ := (Group.reached_line hu).exists_settle hp
    obtain ⟨-, g, rfl, hs⟩ := (Group.reached_line hu).of_settle hw
    exact ⟨_, read_eq_ok_iff.mpr ⟨_, leads_takeAll.mpr ⟨u, hu, _, hw, _,
      (leads_fromEnv_examples hs).mpr ⟨he, rfl⟩,
      (leads_fromEnv_interpreter hs).mpr ⟨hi, rfl⟩⟩, rfl⟩⟩

/-- Arguments are read if and only if they are those of groups whose values are well, with the mark
that ends all options behind them or not, and then what is read is what the groups give. -/
theorem read_exact (e : Help.Env) (args : List Bytes) :
    ((∃ o, read e args = .ok o) ↔ ∃ gs closed, args = Group.line gs closed ∧ Fits e gs) ∧
    ∀ o gs closed, read e args = .ok o → args = Group.line gs closed → Gives e gs o := by
  refine ⟨⟨?_, ?_⟩, ?_⟩
  · rintro ⟨o, ho⟩
    obtain ⟨t, ht, -⟩ := read_eq_ok_iff.mp ho
    obtain ⟨u, hu, w, hw, -⟩ := leads_takeAll.mp ht
    obtain ⟨gs, closed, rfl⟩ := Group.reached_start.exists_line le_rfl rfl hu hw
    exact ⟨gs, closed, rfl, (read_line.1 o ho).1⟩
  · rintro ⟨gs, closed, rfl, h⟩
    exact read_line.2 h
  · rintro o gs closed ho rfl
    exact (read_line.1 o ho).2

/-- A value that is no text, one that is a dash, and an empty variable that is not looked at. -/
theorem mixed_exact :
    let e : Help.Env := ⟨some (Bytes.ofString "dir"), some []⟩
    let args := ["--skip", "-", "-vv", "--timeout=+07"].map Bytes.ofString ++
      [Bytes.ofString "--interpreter=" ++ [0xFF], Bytes.ofString "--verbose", Bytes.ofString "--"]
    let gs := [.separate .skip (Bytes.ofString "-") (.inl rfl), .cluster 1,
      .attached .timeout (Bytes.ofString "+07"), .attached .interpreter [0xFF], .verbose]
    let o := ⟨Bytes.ofString "dir", [0xFF], "franz", 7, ["-"], [], none, .auto, 3⟩
    read e args = .ok o ∧ args = Group.line gs true ∧ Gives e gs o := by
  intro e args gs o
  have hread : read e args = .ok o := by
    rw [eq_ok_iff]
    decide +kernel
  have hline : args = Group.line gs true := by decide +kernel
  exact ⟨hread, hline, (read_exact e args).2 o gs true hread hline⟩

end Options
end ExampleSuite
