import ExampleSuite.Options.Reader
import ExampleSuite.Proofs.Encoding

/-!
How one argument is taken.

An argument is a long name with or without a value attached, a cluster of the short flag, the value
of the option in front of it, or the mark that ends all options. Whatever comes next settles an
option that is pending.
-/

namespace ExampleSuite

/-! ### Values -/

/-- Digits with a plus sign in front or not, and the number below `2^64` that they denote. -/
def Numeral (v : Bytes) (n : ℕ) : Prop :=
  ∃ ds : List Char, (v = Utf8.encode ds ∨ v = Utf8.encode ('+' :: ds)) ∧ ds ≠ [] ∧
    (∀ c ∈ ds, c.isDigit) ∧ n = Nat.ofDigitChars 10 ds 0 ∧ n < 2 ^ 64

def ColorMode.word : ColorMode → String
  | .auto => "auto"
  | .always => "always"
  | .never => "never"

namespace Arguments

lemma le_ofDigitChars (cs : List Char) (m : ℕ) : m ≤ Nat.ofDigitChars 10 cs m := by
  induction cs generalizing m with
  | nil => exact le_rfl
  | cons c cs ih =>
    rw [Nat.ofDigitChars_cons]
    exact le_trans (by omega) (ih _)

lemma digits_eq_ok_iff {cs : List Char} {m n : ℕ} (hm : m < 2 ^ 64) :
    digits m cs = .ok n ↔ (∀ c ∈ cs, c.isDigit) ∧ n = Nat.ofDigitChars 10 cs m ∧ n < 2 ^ 64 := by
  induction cs generalizing m with
  | nil =>
    rw [digits]
    simp
    omega
  | cons c cs ih =>
    rw [digits, List.forall_mem_cons, Nat.ofDigitChars_cons, Nat.mul_comm 10 m]
    by_cases hc : c.isDigit
    · rw [if_pos hc, and_iff_right hc]
      dsimp only
      split_ifs with hlt
      · exact ih hlt
      · have hle := le_ofDigitChars cs (m * 10 + (c.toNat - '0'.toNat))
        change ¬ m * 10 + (c.toNat - '0'.toNat) < _ at hlt
        refine iff_of_false nofun ?_
        rintro ⟨-, rfl, h⟩
        omega
    · simp [hc]

lemma number_eq_ok_iff {cs : List Char} {n : ℕ} :
    number cs = .ok n ↔ Numeral (Utf8.encode cs) n := by
  simp only [Numeral, Utf8.encode_injective.eq_iff]
  unfold number
  split
  · exact iff_of_false nofun (by rintro ⟨ds, rfl | h, hne, -⟩ <;> simp_all)
  · refine iff_of_false nofun ?_
    rintro ⟨ds, rfl | h, hne, hd, -⟩
    · simpa using hd '+'
    · simp_all
  next cs hcs =>
    rw [digits_eq_ok_iff (by decide)]
    constructor
    · rintro ⟨hd, hn⟩
      exact ⟨cs, .inr rfl, by simpa using hcs, hd, hn⟩
    · rintro ⟨ds, rfl | h, hne, hd, hn⟩
      · simpa using hd '+' List.mem_cons_self
      · cases h
        exact ⟨hd, hn⟩
  next hnil hone hplus =>
    rw [digits_eq_ok_iff (by decide)]
    constructor
    · rintro ⟨hd, hn⟩
      exact ⟨cs, .inl rfl, hnil, hd, hn⟩
    · rintro ⟨ds, rfl | h, hne, hd, hn⟩
      · exact ⟨hd, hn⟩
      · exact absurd h (hplus ds)

lemma Numeral.exists_encode {v : Bytes} {n : ℕ} (h : Numeral v n) : ∃ cs, v = Utf8.encode cs := by
  obtain ⟨ds, hv | hv, -⟩ := h
  · exact ⟨_, hv⟩
  · exact ⟨_, hv⟩

lemma color?_eq_some_iff {s : String} {c : ColorMode} : color? s = some c ↔ s = c.word := by
  unfold color?
  split_ifs with h₁ h₂ h₃ <;> cases c <;> simp_all [ColorMode.word]

lemma toString?_bind_color? {v : Bytes} {c : ColorMode} :
    v.toString?.bind color? = some c ↔ v = .ofString c.word := by
  simp [Option.bind_eq_some_iff, Bytes.toString?_eq_some_iff, color?_eq_some_iff]

/-! ### Steps that succeed -/

/-- The step succeeds and leads from one state to another. -/
def Leads (x : Read Unit) (s t : State) : Prop := x.run s = .ok () t

section leads

variable {x y : Read Unit} {s t : State}

@[simp] lemma leads_pure : Leads (pure ()) s t ↔ t = s := by
  constructor
  · rintro ⟨⟩
    rfl
  · rintro rfl
    rfl

@[simp] lemma not_leads_throw (p : ArgProblem) : ¬ Leads (throw p) s t := nofun

@[simp] lemma leads_modify (f : State → State) : Leads (modify f) s t ↔ t = f s := by
  constructor
  · rintro ⟨⟩
    rfl
  · rintro rfl
    rfl

@[simp] lemma leads_set (u : State) : Leads (set u) s t ↔ t = u := by
  constructor
  · rintro ⟨⟩
    rfl
  · rintro rfl
    rfl

lemma leads_bind {f : Unit → Read Unit} :
    Leads (x >>= f) s t ↔ ∃ u, Leads x s u ∧ Leads (f ()) u t := by
  unfold Leads
  rw [EStateM.run_bind]
  cases x.run s with
  | ok a u =>
    constructor
    · exact fun h => ⟨u, rfl, h⟩
    · rintro ⟨_, ⟨⟩, h⟩
      exact h
  | error e u => simp

lemma leads_get_bind (f : State → Read Unit) : Leads (get >>= f) s t ↔ Leads (f s) s t := .rfl

lemma leads_forM_cons {α : Type} (f : α → Read Unit) (a : α) (l : List α) :
    Leads ((a :: l).forM f) s t ↔ ∃ u, Leads (f a) s u ∧ Leads (l.forM f) u t := leads_bind

end leads

/-- What keeping the value of an option makes of what has been given. -/
inductive Stored (g : Given) (v : Bytes) : Opt → Given → Prop where
  | examples (h : v ≠ []) : Stored g v .examples { g with examples := some v }
  | interpreter (h : v ≠ []) : Stored g v .interpreter { g with interpreter := some v }
  | rules (h : v ≠ []) : Stored g v .rules { g with rules := some v }
  | extension {s : String} (h : v = .ofString s) :
      Stored g v .extension { g with extension := some s }
  | skip {s : String} (h : v = .ofString s) : Stored g v .skip { g with skips := g.skips ++ [s] }
  | skipPattern {s : String} (h : v = .ofString s) :
      Stored g v .skipPattern { g with patterns := g.patterns ++ [s] }
  | timeout {n : ℕ} (h : Numeral v n) :
      Stored g v .timeout { g with timeout := some n }
  | color {c : ColorMode} (h : v = .ofString c.word) : Stored g v .color { g with color := some c }

lemma leads_path {o : Opt} {v : Bytes} {f : Path → Read Unit} {s t : State} :
    Leads (path o v >>= f) s t ↔ v ≠ [] ∧ Leads (f v) s t := by
  unfold path
  split_ifs with hv
  · exact iff_of_false nofun fun h => h.1 hv
  · exact (and_iff_right hv).symm

lemma leads_text {v : Bytes} {f : String → Read Unit} {s t : State} :
    Leads (text v >>= f) s t ↔ ∃ x, v = .ofString x ∧ Leads (f x) s t := by
  simp only [← Bytes.toString?_eq_some_iff]
  unfold text
  cases v.toString? with
  | none => exact iff_of_false nofun nofun
  | some x =>
    constructor
    · exact fun h => ⟨x, rfl, h⟩
    · rintro ⟨_, ⟨⟩, h⟩
      exact h

lemma leads_store {o : Opt} {v : Bytes} {s t : State} :
    Leads (store o v) s t ↔ ∃ g, Stored s.given v o g ∧ t = { s with given := g } := by
  constructor
  · intro h
    cases o <;> simp only [store, leads_path, leads_text, modifyGiven, leads_modify] at h
    case examples => exact ⟨_, .examples h.1, h.2⟩
    case interpreter => exact ⟨_, .interpreter h.1, h.2⟩
    case rules => exact ⟨_, .rules h.1, h.2⟩
    case extension =>
      obtain ⟨x, hv, ht⟩ := h
      exact ⟨_, .extension hv, ht⟩
    case skip =>
      obtain ⟨x, hv, ht⟩ := h
      exact ⟨_, .skip hv, ht⟩
    case skipPattern =>
      obtain ⟨x, hv, ht⟩ := h
      exact ⟨_, .skipPattern hv, ht⟩
    case timeout =>
      obtain ⟨x, hv, h⟩ := h
      cases hn : number x.toList with
      | error why => simp [hn] at h
      | ok n =>
        simp only [hn, leads_modify] at h
        exact ⟨_, .timeout (hv ▸ number_eq_ok_iff.mp hn), h⟩
    case color =>
      cases hc : v.toString?.bind color? with
      | none => simp [hc] at h
      | some c =>
        simp only [hc, leads_modify] at h
        exact ⟨_, .color (toString?_bind_color?.mp hc), h⟩
  · rintro ⟨g, hg, rfl⟩
    cases hg <;> simp only [store, leads_path, leads_text, modifyGiven, leads_modify, and_true]
    case extension hv => exact ⟨_, hv, rfl⟩
    case skip hv => exact ⟨_, hv, rfl⟩
    case skipPattern hv => exact ⟨_, hv, rfl⟩
    case timeout hv =>
      obtain ⟨cs, rfl⟩ := Numeral.exists_encode hv
      refine ⟨String.ofList cs, by rw [Bytes.ofString, String.toList_ofList], ?_⟩
      simp [number_eq_ok_iff.mpr hv]
    case color hv => simp [toString?_bind_color?.mpr hv]
    all_goals assumption

/-- With a switch among those that have come. -/
def Given.noting (g : Given) (w : Switch) : Given :=
  if g.seen.contains w then g else { g with seen := g.seen ++ [w] }

lemma leads_mark {w : Switch} {s t : State} :
    Leads (mark w) s t ↔ t = { s with given := s.given.noting w } := leads_modify _

lemma leads_put {o : Opt} {v : Bytes} {s t : State} :
    Leads (put o v) s t ↔ (o.repeats = false → .opt o ∉ s.given.seen) ∧
      ∃ g, Stored (s.given.noting (.opt o)) v o g ∧ t = { s with given := g } := by
  unfold put
  rw [leads_get_bind]
  by_cases hc : !o.repeats && s.given.seen.contains (.opt o)
  · rw [if_pos hc, leads_bind]
    simp only [Bool.and_eq_true, Bool.not_eq_true', List.contains_iff_mem] at hc
    refine iff_of_false ?_ fun h => h.1 hc.1 hc.2
    rintro ⟨u, -, hu⟩
    rw [leads_bind] at hu
    obtain ⟨w, hw, -⟩ := hu
    cases hw
  · rw [if_neg hc, leads_bind]
    simp only [leads_mark, exists_eq_left, leads_store]
    simp only [Bool.and_eq_true, Bool.not_eq_true', List.contains_iff_mem, not_and] at hc
    exact (and_iff_right hc).symm

/-- Settling the pending option. -/
lemma leads_settle {s t : State} :
    Leads settle s t ↔ match s.pending with
      | none => t = { s with pending := none }
      | some (_, none) => False
      | some (o, some v) => Leads (put o v) { s with pending := none } t := by
  unfold settle
  rw [leads_get_bind, leads_bind]
  simp only [leads_set, exists_eq_left]
  cases s.pending with
  | none => exact leads_pure
  | some p =>
    obtain ⟨o, _ | v⟩ := p
    · simp
    · exact .rfl

lemma Leads.settled {s t : State} (h : Leads settle s t) :
    t.pending = none ∧ t.ended = s.ended := by
  rw [leads_settle] at h
  split at h
  · subst h
    exact ⟨rfl, rfl⟩
  · cases h
  · obtain ⟨-, g, -, rfl⟩ := leads_put.mp h
    exact ⟨rfl, rfl⟩

/-- With one more flag for telling more. -/
def State.louder (s : State) : State :=
  { s with given := { s.given.noting (.flag .verbose) with
      verbose := min 255 ((s.given.noting (.flag .verbose)).verbose + 1) } }

lemma leads_giveFlag {f : Flag} {s t : State} :
    Leads (giveFlag f) s t ↔ f = .verbose ∧ ∃ u, Leads settle s u ∧ t = u.louder := by
  unfold giveFlag
  rw [leads_bind]
  cases f with
  | help => simp
  | version => simp
  | verbose =>
    simp only [leads_bind, leads_mark, modifyGiven, leads_modify, true_and, exists_eq_left]
    exact .rfl

/-! ### Names -/

lemma switch?_eq_some_iff {n : Bytes} {w : Switch} : switch? n = some w ↔ n = .ofString w.name := by
  constructor
  · intro h
    exact (by simpa using List.find?_some h : Bytes.ofString w.name = n).symm
  · rintro rfl
    cases w with
    | opt o => cases o <;> rfl
    | flag f => cases f <;> rfl

lemma flag?_eq_some_iff {c : Char} {f : Flag} : flag? c = some f ↔ c = f.letter := by
  constructor
  · intro h
    exact (by simpa using List.find?_some h : f.letter = c).symm
  · rintro rfl
    cases f <;> rfl

lemma all_ne_of_notMem {n : Bytes} {b : UInt8} (hn : b ∉ n) : ∀ c ∈ n, (c != b) = true := by
  intro c hc
  rw [bne_iff_ne]
  rintro rfl
  exact hn hc

lemma long?_alone {n : Bytes} (hn : 0x3D ∉ n) : long? (0x2D :: 0x2D :: n) = some (n, none) := by
  have ht : n.takeWhile (· != 0x3D) = n := List.takeWhile_eq_self_iff.mpr (all_ne_of_notMem hn)
  simp [long?, ht]

lemma long?_attached {n : Bytes} (hn : 0x3D ∉ n) (v : Bytes) :
    long? (0x2D :: 0x2D :: (n ++ 0x3D :: v)) = some (n, some v) := by
  have ht : (n ++ 0x3D :: v).takeWhile (· != 0x3D) = n := by
    rw [List.takeWhile_append_of_pos (all_ne_of_notMem hn)]
    simp
  simp [long?, ht]

/-- What looks like a long name is one, with a value attached to it or not. -/
lemma exists_of_long? {a n : Bytes} {v : Option Bytes} (h : long? a = some (n, v)) :
    0x3D ∉ n ∧ a = 0x2D :: 0x2D :: (n ++ v.elim [] (0x3D :: ·)) := by
  obtain ⟨r, rfl⟩ : ∃ r, a = 0x2D :: 0x2D :: r := by
    unfold long? at h
    split at h
    · exact ⟨_, rfl⟩
    · cases h
  by_cases hr : 0x3D ∈ r
  · obtain ⟨m, w, rfl, hm⟩ := List.eq_append_cons_of_mem hr
    rw [long?_attached hm] at h
    cases h
    exact ⟨hm, rfl⟩
  · rw [long?_alone hr] at h
    cases h
    exact ⟨hr, by simp⟩

lemma notMem_name (w : Switch) : 0x3D ∉ Bytes.ofString w.name := by
  cases w with
  | opt o => cases o <;> decide
  | flag f => cases f <;> decide

/-- What can stand behind the name of an option as its value. -/
def Free (v : Bytes) : Prop := v = .ofString "-" ∨ v.head? ≠ some 0x2D

lemma free_iff {a : Bytes} : Free a ↔ long? a = none ∧ short? a = none := by
  unfold Free long? short?
  rw [show Bytes.ofString "-" = [0x2D] from rfl]
  constructor
  · rintro (rfl | h)
    · exact ⟨rfl, rfl⟩
    · constructor <;> split <;> simp_all
  · rintro ⟨-, h⟩
    split at h
    next r =>
      by_cases hr : r = []
      · exact .inl (by rw [hr])
      · rw [if_neg hr] at h
        cases h
    next hne =>
      cases a with
      | nil => exact .inr (by simp)
      | cons b r =>
        refine .inr fun hb => hne r ?_
        rw [List.head?_cons, Option.some.injEq] at hb
        rw [hb]

lemma leads_settle_of_none {s t : State} (h : s.pending = none) : Leads settle s t ↔ t = s := by
  rw [leads_settle, h]
  simp only [← h]

/-- The first letter of a cluster is a flag, and it is given before the others. -/
lemma leads_giveShort_cons {p : Option Char} {ps : List (Option Char)} {rest : Bytes}
    {s t : State} : Leads (giveShort (p :: ps) rest) s t ↔
      p = some 'v' ∧ ∃ u, Leads settle s u ∧ Leads (giveShort ps (rest.drop 1)) u.louder t := by
  by_cases hp : p = some 'v'
  · subst hp
    rw [giveShort, show flag? 'v' = some .verbose from rfl]
    simp only [leads_bind, leads_giveFlag, true_and]
    constructor
    · rintro ⟨_, ⟨u, hu, rfl⟩, h⟩
      exact ⟨u, hu, h⟩
    · rintro ⟨u, hu, h⟩
      exact ⟨_, ⟨u, hu, rfl⟩, h⟩
  · refine iff_of_false (fun h => ?_) fun h => hp h.1
    cases p with
    | none => cases h
    | some c =>
      cases hf : flag? c with
      | none =>
        rw [giveShort, hf] at h
        cases h
      | some f =>
        rw [giveShort, hf] at h
        obtain ⟨u, hu, -⟩ := leads_bind.mp h
        obtain ⟨rfl, -⟩ := leads_giveFlag.mp hu
        exact hp (congrArg some (flag?_eq_some_iff.mp hf))

lemma leads_giveShort_of_none {ps : List (Option Char)} {rest : Bytes} {s t : State}
    (hs : s.pending = none) : Leads (giveShort ps rest) s t ↔
      ∃ n, ps = List.replicate n (some 'v') ∧ t = State.louder^[n] s := by
  induction ps generalizing rest s with
  | nil =>
    rw [giveShort, leads_pure]
    constructor
    · rintro rfl
      exact ⟨0, rfl, rfl⟩
    · rintro ⟨n, hn, rfl⟩
      obtain rfl : n = 0 := by simpa using (congrArg List.length hn).symm
      rfl
  | cons p ps ih =>
    rw [leads_giveShort_cons]
    simp only [leads_settle_of_none hs, exists_eq_left, ih (s := s.louder) hs]
    constructor
    · rintro ⟨rfl, n, rfl, rfl⟩
      exact ⟨n + 1, rfl, rfl⟩
    · rintro ⟨_ | n, hn, rfl⟩
      · cases hn
      · obtain ⟨hp, hps⟩ := List.cons.inj hn
        exact ⟨hp, n, hps, rfl⟩

/-- All letters of a cluster are the same flag. -/
lemma leads_giveShort {ps : List (Option Char)} {rest : Bytes} {s t : State} (hne : ps ≠ []) :
    Leads (giveShort ps rest) s t ↔ ∃ n, ps = List.replicate (n + 1) (some 'v') ∧
      ∃ u, Leads settle s u ∧ t = State.louder^[n + 1] u := by
  obtain ⟨p, ps, rfl⟩ := List.exists_cons_of_ne_nil hne
  rw [leads_giveShort_cons]
  constructor
  · rintro ⟨rfl, u, hu, h⟩
    obtain ⟨n, rfl, rfl⟩ := (leads_giveShort_of_none (s := u.louder) hu.settled.1).mp h
    exact ⟨n, rfl, u, hu, rfl⟩
  · rintro ⟨n, hn, u, hu, rfl⟩
    obtain ⟨hp, hps⟩ := List.cons.inj hn
    exact ⟨hp, u, hu, (leads_giveShort_of_none (s := u.louder) hu.settled.1).mpr ⟨n, hps, rfl⟩⟩

/-- The ways in which an argument is taken, as long as no mark has ended the options. -/
inductive Taken (s : State) : Bytes → State → Prop where
  | closed : Taken s [0x2D, 0x2D] { s with ended := true }
  | attached {o : Opt} {v : Bytes} {u t : State} (settled : Leads settle s u)
      (given : Leads (put o v) u t) :
      Taken s (0x2D :: 0x2D :: (Bytes.ofString o.name ++ 0x3D :: v)) t
  | opened {o : Opt} {u : State} (settled : Leads settle s u) :
      Taken s (0x2D :: 0x2D :: Bytes.ofString o.name) { u with pending := some (o, none) }
  | verbose {u : State} (settled : Leads settle s u) :
      Taken s (0x2D :: 0x2D :: Bytes.ofString Flag.verbose.name) u.louder
  | cluster {n : ℕ} {u : State} (settled : Leads settle s u) :
      Taken s (0x2D :: List.replicate (n + 1) 0x76) (State.louder^[n + 1] u)
  | value {o : Opt} {v : Bytes} (free : Free v) (waiting : s.pending = some (o, none)) :
      Taken s v { s with pending := some (o, some v) }

lemma taken_of_giveLong {name : Bytes} {value : Option Bytes} {s t : State}
    (h : Leads (giveLong name value) s t) :
    Taken s (0x2D :: 0x2D :: (name ++ value.elim [] (0x3D :: ·))) t := by
  unfold giveLong at h
  cases hw : switch? name with
  | none =>
    rw [hw] at h
    cases value <;> cases h
  | some w =>
    rw [hw] at h
    obtain rfl := switch?_eq_some_iff.mp hw
    cases w with
    | opt o =>
      cases value with
      | none =>
        obtain ⟨u, hu, ht⟩ := leads_bind.mp h
        obtain rfl := (leads_modify _).mp ht
        rw [Option.elim_none, List.append_nil]
        exact .opened hu
      | some v =>
        obtain ⟨u, hu, ht⟩ := leads_bind.mp h
        exact .attached hu ht
    | flag f =>
      cases value with
      | none =>
        obtain ⟨rfl, u, hu, rfl⟩ := leads_giveFlag.mp h
        rw [Option.elim_none, List.append_nil]
        exact .verbose hu
      | some v => cases h

lemma encode_replicate (n : ℕ) : Utf8.encode (List.replicate n 'v') = List.replicate n 0x76 := by
  induction n with
  | zero => rfl
  | succ n ih =>
    rw [List.replicate_succ, List.replicate_succ, ← ih]
    rfl

lemma taken_of_leads {s t : State} {a : Bytes} (hs : s.ended = false) (h : Leads (take a) s t) :
    Taken s a t := by
  unfold take at h
  rw [leads_get_bind, if_neg (by simp [hs])] at h
  split_ifs at h with ha
  · obtain rfl := (leads_set _).mp h
    exact ha ▸ .closed
  split at h
  next name value hl =>
    obtain ⟨hname, rfl⟩ := exists_of_long? hl
    exact taken_of_giveLong h
  next cluster hl hc =>
    obtain ⟨hne, rfl⟩ : cluster ≠ [] ∧ a = 0x2D :: cluster := by
      unfold short? at hc
      split at hc
      · split_ifs at hc with hr
        cases hc
        exact ⟨hr, rfl⟩
      · cases hc
    obtain ⟨n, hn, u, hu, rfl⟩ := (leads_giveShort (Utf8.parts_ne_nil hne)).mp h
    rw [← List.map_replicate, Utf8.parts_eq_map_some_iff, encode_replicate] at hn
    exact hn ▸ .cluster hu
  next o hl hc hp =>
    obtain rfl := (leads_set _).mp h
    exact .value (free_iff.mpr ⟨hl, hc⟩) hp
  next => cases h

section take

variable {s t : State}

lemma leads_take_attached (hs : s.ended = false) (o : Opt) (v : Bytes) :
    Leads (take (0x2D :: 0x2D :: (Bytes.ofString o.name ++ 0x3D :: v))) s t ↔
      ∃ u, Leads settle s u ∧ Leads (put o v) u t := by
  have hl : long? (0x2D :: 0x2D :: (Bytes.ofString o.name ++ 0x3D :: v)) =
      some (.ofString o.name, some v) := long?_attached (notMem_name (.opt o)) v
  have hw : switch? (.ofString o.name) = some (.opt o) := switch?_eq_some_iff.mpr rfl
  unfold take
  rw [leads_get_bind, if_neg (by simp [hs]), if_neg (by simp), hl]
  show Leads (giveLong (.ofString o.name) (some v)) s t ↔ _
  unfold giveLong
  rw [hw]
  exact leads_bind

lemma leads_take_opened (hs : s.ended = false) (o : Opt) :
    Leads (take (0x2D :: 0x2D :: Bytes.ofString o.name)) s t ↔
      ∃ u, Leads settle s u ∧ t = { u with pending := some (o, none) } := by
  have hl : long? (0x2D :: 0x2D :: Bytes.ofString o.name) = some (.ofString o.name, none) :=
    long?_alone (notMem_name (.opt o))
  have hw : switch? (.ofString o.name) = some (.opt o) := switch?_eq_some_iff.mpr rfl
  unfold take
  rw [leads_get_bind, if_neg (by simp [hs]), if_neg (by cases o <;> decide), hl]
  show Leads (giveLong (.ofString o.name) none) s t ↔ _
  unfold giveLong
  rw [hw]
  show Leads (settle >>= _) s t ↔ _
  simp only [leads_bind, leads_modify]

lemma leads_take_verbose (hs : s.ended = false) :
    Leads (take (0x2D :: 0x2D :: Bytes.ofString Flag.verbose.name)) s t ↔
      ∃ u, Leads settle s u ∧ t = u.louder := by
  have hl : long? (0x2D :: 0x2D :: Bytes.ofString Flag.verbose.name) =
      some (.ofString Flag.verbose.name, none) := long?_alone (notMem_name (.flag .verbose))
  have hw : switch? (.ofString Flag.verbose.name) = some (.flag .verbose) := rfl
  unfold take
  rw [leads_get_bind, if_neg (by simp [hs]), if_neg (by decide), hl]
  show Leads (giveLong (.ofString Flag.verbose.name) none) s t ↔ _
  unfold giveLong
  rw [hw]
  exact leads_giveFlag.trans (and_iff_right rfl)

lemma leads_take_cluster (hs : s.ended = false) (n : ℕ) :
    Leads (take (0x2D :: List.replicate (n + 1) 0x76)) s t ↔
      ∃ u, Leads settle s u ∧ t = State.louder^[n + 1] u := by
  have hp : Utf8.parts (List.replicate (n + 1) 0x76) = List.replicate (n + 1) (some 'v') := by
    have hp := Utf8.parts_eq_map_some_iff.mpr (encode_replicate (n + 1)).symm
    rwa [List.map_replicate] at hp
  unfold take
  rw [leads_get_bind, if_neg (by simp [hs]), List.replicate_succ]
  show Leads (giveShort (Utf8.parts (List.replicate (n + 1) 0x76)) _) s t ↔ _
  rw [hp, leads_giveShort (by simp)]
  constructor
  · rintro ⟨m, hm, h⟩
    obtain rfl : n = m := by simpa using congrArg List.length hm
    exact h
  · exact fun h => ⟨n, rfl, h⟩

lemma leads_take_free (hs : s.ended = false) {v : Bytes} (free : Free v) :
    Leads (take v) s t ↔
      ∃ o, s.pending = some (o, none) ∧ t = { s with pending := some (o, some v) } := by
  obtain ⟨hl, hc⟩ := free_iff.mp free
  unfold take
  rw [leads_get_bind, if_neg (by simp [hs]), if_neg (by rintro rfl; cases hl), hl, hc]
  cases hp : s.pending with
  | none => exact iff_of_false nofun nofun
  | some p =>
    obtain ⟨o, _ | x⟩ := p
    · simp
    · exact iff_of_false nofun nofun

lemma leads_take_closed (hs : s.ended = false) :
    Leads (take [0x2D, 0x2D]) s t ↔ t = { s with ended := true } := by
  unfold take
  rw [leads_get_bind, if_neg (by simp [hs]), if_pos rfl, leads_set]

end take

end Arguments

end ExampleSuite
