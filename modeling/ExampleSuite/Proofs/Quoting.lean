import ExampleSuite.Proofs.Nodes
import ExampleSuite.Proofs.Scanning

/-!
A rule file for any rules.

Two lists are written as a mapping in braces with all texts between double quotes. What is not a
printed character of one octet, or would end or escape something, is written as its number, and so
any text at all can be written.
-/

namespace ExampleSuite.Yaml

/-! ### Numbers of characters -/

def hexDigit (upper : Bool) (n : ℕ) : Char :=
  Char.ofNat (if n < 10 then 48 + n else if upper then 55 + n else 87 + n)

/-- The last digits of a number in base 16, as many as are asked for. -/
def hexDigits (upper : Bool) : ℕ → ℕ → List Char
  | 0, _ => []
  | k + 1, n => hexDigits upper k (n / 16) ++ [hexDigit upper (n % 16)]

section hex

variable {upper : Bool} {c : Char} {s : List Char}

lemma hexValue_hexDigit {n : ℕ} (hn : n < 16) : hexValue (hexDigit upper n) = some n := by
  have h : ∀ (upper : Bool) (n : Fin 16), hexValue (hexDigit upper n) = some n.val := by decide
  exact h upper ⟨n, hn⟩

lemma hexNumber_concat (ds : List Char) (d : Char) :
    hexNumber (ds ++ [d]) = (hexNumber ds).bind fun n => (hexValue d).map (n * 16 + ·) := by
  simp [hexNumber, List.foldlM_append]

lemma hexNumber_hexDigits (k n : ℕ) : hexNumber (hexDigits upper k n) = some (n % 16 ^ k) := by
  induction k generalizing n with
  | zero => simp [hexDigits, hexNumber, Nat.mod_one]
  | succ k ih =>
    rw [hexDigits, hexNumber_concat, ih, hexValue_hexDigit (Nat.mod_lt _ (by decide)),
      Option.bind_some, Option.map_some, Nat.pow_succ', Nat.mod_mul, Nat.mul_comm, Nat.add_comm]

lemma numbered_hexDigits (c : Char) : numbered (hexDigits upper 8 c.toNat) = some c := by
  have hlt : c.toNat < 16 ^ 8 := by
    rcases c.valid with h | ⟨-, h⟩
    · exact Nat.lt_trans h (by decide)
    · exact Nat.lt_trans h (by decide)
  have hvalid : c.toNat.isValidChar := c.valid
  rw [numbered, hexNumber_hexDigits, Nat.mod_eq_of_lt hlt, Option.bind_some, dif_pos hvalid]
  exact congrArg some (Char.ext rfl)

/-- A character between double quotes: itself, or its number in eight digits. -/
def escape (upper : Bool) (c : Char) : List Char :=
  if 0x20 ≤ c.toNat ∧ c.toNat ≤ 0x7E ∧ c ≠ '"' ∧ c ≠ '\\' then [c]
  else '\\' :: 'U' :: hexDigits upper 8 c.toNat

lemma quotes_escape (upper : Bool) (s : List Char) : Quotes s (s.flatMap (escape upper)) := by
  induction s with
  | nil => exact .nil
  | cons c s ih =>
    rw [List.flatMap_cons, escape]
    split_ifs with h
    · exact .own ⟨h.1, h.2.1⟩ h.2.2 ih
    · exact .escape (numbered_hexDigits c) ih

end hex

/-! ### The scan of a mapping in braces -/

namespace Scan

variable {s t : Scan} {ks : List TokenKind} {flow n : ℕ} {is : List ℤ} {r : List Char}

/-- A key between double quotes in a flow mapping. -/
lemma Has.quotedKey {name : List Char} (h : s.Has ks (flow + 1) is) (ha : s.allowed = true)
    (hname : ∀ c ∈ name, Bare c) (hlen : name.length ≤ 1022) (hrest : s.at_.rest =
      List.replicate n ' ' ++ '"' :: (name ++ '"' :: ':' :: r)) :
    ∃ t, Leads s t ∧ t.at_.rest = r ∧ t.allowed = false ∧
      t.Has (ks ++ [TokenKind.key, .scalar false name, .value]) (flow + 1) is := by
  obtain ⟨t, hstep, hat, hallowed, ht⟩ := h.step_of_inked (.inl (by simp)) (by decide) hrest
  have hrest' : t.at_.rest = '"' :: (name ++ ['"']) ++ ':' :: r := by simp [hat]
  obtain ⟨u, v, hu, hgoing, hurest, hv, hvat, hvallowed, hvhas⟩ :=
    ht.key (hallowed.trans ha) (spells_quoted (quotes_self hname) t.flowing (':' :: r)) hrest'
      (.inl (by simp)) (by simp; omega) (.inr (not_separator (by decide) (by decide) _))
      (.inl (by simp))
  refine ⟨v, .step h.going (hstep.trans hu) ?_ (.step hgoing hv ?_ (.refl v)), by rw [hvat],
    hvallowed, by simpa using hvhas⟩
  · simp [hurest, hrest]
    omega
  · simp [hurest, hvat]

lemma Has.openBrace (h : s.Has ks 0 [-1]) (hrest : s.at_.rest = '\x7b' :: r) :
    ∃ t, s.step = some t ∧ t.at_.rest = r ∧ t.allowed = true ∧
      t.Has (ks ++ [TokenKind.flowMapStart]) 1 [-1] := by
  have hindent {u : Scan} {ks : List TokenKind} (hu : u.Has ks 0 [-1]) : u.indent < u.col := by
    obtain ⟨hi, -⟩ := List.cons.inj hu.indents
    simp only [hi, col]
    omega
  obtain ⟨t, hstep, hat, -, ht⟩ :=
    h.step_of_inked (n := 0) (.inr (hindent h).le) (by decide) hrest
  have hread : t.read = t.openFlow .flowMapStart := by simp [Scan.read, hat, not_separator]
  obtain ⟨u, hu, huat, hallowed, hhas⟩ := ht.openFlow (k := .flowMapStart)
    fun _ => by simp [here, (hindent ht).ne]
  exact ⟨u, by rw [hstep, hread, hu], by rw [huat, hat]; rfl, hallowed, hhas⟩

lemma Has.closeBrace (h : s.Has ks (flow + 1) is) (hrest : s.at_.rest = '\x7d' :: r) :
    ∃ t, s.step = some t ∧ t.at_.rest = r ∧ t.Has (ks ++ [TokenKind.flowMapEnd]) flow is := by
  obtain ⟨t, hstep, hat, -, ht⟩ := h.step_of_inked (n := 0) (.inl (by simp)) (by decide) hrest
  obtain ⟨u, hu, huat, -, hhas⟩ := ht.closeFlow (k := .flowMapEnd)
  have hread : t.read = t.closeFlow .flowMapEnd := by simp [Scan.read, hat, not_separator]
  exact ⟨u, by rw [hstep, hread, hu], by rw [huat, hat]; rfl, hhas⟩

/-- A key between double quotes with a sequence in brackets. -/
lemma Has.quotedEntry {name : List Char} {ss : List String} {write : String → List Char}
    (h : s.Has ks (flow + 1) is) (ha : s.allowed = true) (hname : ∀ c ∈ name, Bare c)
    (hlen : name.length ≤ 1022) (hw : ∀ s ∈ ss, Lists false s.toList (write s))
    (hrest : s.at_.rest = List.replicate n ' ' ++ '"' :: (name ++ '"' :: ':' :: ' ' :: '[' ::
      (List.intercalate [',', ' '] (ss.map write) ++ ']' :: r))) :
    ∃ t, Leads s t ∧ t.at_.rest = r ∧ t.Has (ks ++ TokenKind.key :: .scalar false name :: .value ::
      .flowSeqStart :: (Parse.flowKinds false ss ++ [TokenKind.flowSeqEnd])) (flow + 1) is := by
  obtain ⟨t, hlead, htrest, hallowed, ht⟩ := h.quotedKey ha hname hlen hrest
  obtain ⟨u, hlead', hurest, -, hu⟩ :=
    ht.sequence (n := 1) hallowed (.inl (by simp)) hw (by rw [htrest]; rfl)
  exact ⟨u, hlead.trans hlead', hurest, by simpa [Parse.flowKinds] using hu⟩

/-- Two lists in braces, up to the end of the text. -/
lemma leads_braces {name name' : List Char} {ss us : List String} {write : String → List Char}
    (hname : ∀ c ∈ name, Bare c) (hlen : name.length ≤ 1022) (hname' : ∀ c ∈ name', Bare c)
    (hlen' : name'.length ≤ 1022) (hw : ∀ s, Lists false s.toList (write s)) {cs : List Char}
    (hcs : cs = '\x7b' :: '"' :: (name ++ '"' :: ':' :: ' ' :: '[' ::
      (List.intercalate [',', ' '] (ss.map write) ++ ']' :: ',' :: ' ' :: '"' :: (name' ++ '"' ::
        ':' :: ' ' :: '[' :: (List.intercalate [',', ' '] (us.map write) ++ [']', '\x7d']))))) :
    ∃ t, Leads (start cs) t ∧ t.at_.rest = [] ∧
      t.Has (.flowMapStart :: .key :: .scalar false name :: .value :: .flowSeqStart ::
        (Parse.flowKinds false ss ++ TokenKind.flowSeqEnd :: .flowEntry :: .key ::
          .scalar false name' :: .value :: .flowSeqStart ::
            (Parse.flowKinds false us ++ [TokenKind.flowSeqEnd, .flowMapEnd]))) 0 [-1] := by
  have hstart := has_start cs
  obtain ⟨t₁, h₁, hr₁, ha₁, ht₁⟩ := hstart.openBrace (s := start cs) hcs
  obtain ⟨t₂, h₂, hr₂, ht₂⟩ :=
    ht₁.quotedEntry (n := 0) ha₁ hname hlen (fun s _ => hw s) (by rw [hr₁]; rfl)
  obtain ⟨t₃, h₃, hat₃, ha₃, ht₃⟩ := ht₂.comma (by simp) hr₂
  obtain ⟨t₄, h₄, hr₄, ht₄⟩ :=
    ht₃.quotedEntry (n := 1) ha₃ hname' hlen' (fun s _ => hw s) (by rw [hat₃]; rfl)
  obtain ⟨t₅, h₅, hr₅, ht₅⟩ := ht₄.closeBrace hr₄
  have hopen : Leads (start cs) t₁ := .step hstart.going h₁ (by simp [start, hr₁, hcs]) (.refl _)
  have hcomma : Leads t₂ t₃ := .step ht₂.going h₃ (by simp [hr₂, hat₃]) (.refl _)
  have hclose : Leads t₄ t₅ := .step ht₄.going h₅ (by simp [hr₄, hr₅]) (.refl _)
  exact ⟨t₅, hopen.trans (h₂.trans (hcomma.trans (h₄.trans hclose))), hr₅, by simpa using ht₅⟩

lemma ahead_of_nil (h : s.at_.rest = []) : s.ahead.at_.rest = [] := by
  obtain ⟨⟨rest, m⟩, tokens, count, flow, indent, indents, places, allowed, ended⟩ := s
  obtain rfl : rest = [] := h
  simp [ahead, toNext, Cursor.head, Cursor.skip, skipWhile, Cursor.lineBreak?]

end Scan

end ExampleSuite.Yaml

namespace ExampleSuite.RuleFile

open Yaml (Quotes TokenKind escape hexDigit hexDigits)

/-! ### Texts -/

/-- A text between double quotes. -/
def quote (upper : Bool) (s : String) : String :=
  "\"" ++ String.ofList (s.toList.flatMap (escape upper)) ++ "\""

/-- A sequence in brackets. -/
def sequence (write : String → String) (ss : List String) : String :=
  "[" ++ ", ".intercalate (ss.map write) ++ "]"

/-- A mapping in braces, with all texts between double quotes. -/
def braces (upper : Bool) (files patterns : List String) : String :=
  "\x7b\"skip_files\": " ++ sequence (quote upper) files ++ ", \"skip_patterns\": " ++
    sequence (quote upper) patterns ++ "\x7d"

section braces

variable {upper : Bool} {write : String → String} {s : String} {ss : List String}

lemma toList_quote :
    (quote upper s).toList = '"' :: (s.toList.flatMap (escape upper) ++ ['"']) := by
  simp [quote]

lemma toList_sequence : (sequence write ss).toList =
    '[' :: (List.intercalate [',', ' '] (ss.map fun s => (write s).toList) ++ [']']) := by
  simp [sequence, Function.comp_def]

/-! ### Characters of a document -/

/-- A text that a document may hold. -/
def Printed (s : String) : Prop := ∀ c ∈ s.toList, Yaml.isPrintable c

instance (s : String) : Decidable (Printed s) := List.decidableBAll _ _

@[simp] lemma printed_append (s t : String) : Printed (s ++ t) ↔ Printed s ∧ Printed t := by
  simp [Printed, or_imp, forall_and]

lemma printed_intercalate {sep : String} (hsep : Printed sep) (hss : ∀ s ∈ ss, Printed s) :
    Printed (sep.intercalate ss) := by
  induction ss with
  | nil => simp [Printed]
  | cons s ss ih =>
    obtain ⟨hs, hss⟩ := List.forall_mem_cons.mp hss
    cases ss with
    | nil => simpa using hs
    | cons t ts =>
      rw [String.intercalate_cons_cons, printed_append, printed_append]
      exact ⟨⟨hs, hsep⟩, ih hss⟩

lemma printed_sequence (h : ∀ s ∈ ss, Printed (write s)) : Printed (sequence write ss) := by
  rw [sequence, printed_append, printed_append]
  exact ⟨⟨by decide, printed_intercalate (by decide) (by simpa using h)⟩, by decide⟩

lemma isPrintable_hexDigits (k n : ℕ) : ∀ c ∈ hexDigits upper k n, Yaml.isPrintable c := by
  have hdigit : ∀ (upper : Bool) (n : Fin 16), Yaml.isPrintable (hexDigit upper n) := by decide
  induction k generalizing n with
  | zero => simp [hexDigits]
  | succ k ih =>
    rw [hexDigits, List.forall_mem_append]
    exact ⟨ih _, by simpa using hdigit upper ⟨n % 16, Nat.mod_lt _ (by decide)⟩⟩

lemma isPrintable_escape (c : Char) : ∀ d ∈ escape upper c, Yaml.isPrintable d := by
  rw [escape]
  split_ifs with h
  · simp [Yaml.isPrintable, h.1, h.2.1]
  · exact List.forall_mem_cons.mpr
      ⟨by decide, List.forall_mem_cons.mpr ⟨by decide, isPrintable_hexDigits _ _⟩⟩

lemma printed_quote (s : String) : Printed (quote upper s) := by
  rw [quote, printed_append, printed_append]
  refine ⟨⟨by decide, fun d hd => ?_⟩, by decide⟩
  rw [String.toList_ofList, List.mem_flatMap] at hd
  obtain ⟨c, -, hd⟩ := hd
  exact isPrintable_escape c d hd

lemma printed_braces (files patterns : List String) : Printed (braces upper files patterns) := by
  have hseq (ss : List String) : Printed (sequence (quote upper) ss) :=
    printed_sequence fun s _ => printed_quote s
  unfold braces
  simp only [printed_append]
  exact ⟨⟨⟨⟨by decide, hseq files⟩, by decide⟩, hseq patterns⟩, by decide⟩

/-! ### The rules -/

lemma lists_quote (upper : Bool) (s : String) :
    Yaml.Scan.Lists false s.toList (quote upper s).toList where
  inked := ⟨_, _, toList_quote, by decide⟩
  spells r _ := toList_quote ▸ Yaml.Scan.spells_quoted (Yaml.quotes_escape upper s.toList) true r

lemma bare_name (f : Field) : ∀ c ∈ f.name.toList, Yaml.Bare c := by
  cases f <;> exact List.forall_iff_forall_mem.mp (by decide)

lemma braces_tokens (upper : Bool) (files patterns : List String) :
    ∃ ts, Yaml.tokens (braces upper files patterns).toList = some ts ∧ ts.map (·.kind) =
      TokenKind.flowMapStart :: .key :: .scalar false Field.files.name.toList :: .value ::
        .flowSeqStart :: (Yaml.Parse.flowKinds false files ++ TokenKind.flowSeqEnd :: .flowEntry ::
          .key :: .scalar false Field.patterns.name.toList :: .value :: .flowSeqStart ::
            (Yaml.Parse.flowKinds false patterns ++
              [TokenKind.flowSeqEnd, .flowMapEnd, .streamEnd])) := by
  have htext : (braces upper files patterns).toList = '\x7b' :: '"' :: (Field.files.name.toList ++
      '"' :: ':' :: ' ' :: '[' :: (List.intercalate [',', ' ']
        (files.map fun s => (quote upper s).toList) ++ ']' :: ',' :: ' ' :: '"' ::
          (Field.patterns.name.toList ++ '"' :: ':' :: ' ' :: '[' :: (List.intercalate [',', ' ']
            (patterns.map fun s => (quote upper s).toList) ++ [']', '\x7d'])))) := by
    have hopen : "\x7b\"skip_files\": ".toList =
        '\x7b' :: '"' :: (Field.files.name.toList ++ ['"', ':', ' ']) := by cbv
    have hmid : ", \"skip_patterns\": ".toList =
        ',' :: ' ' :: '"' :: (Field.patterns.name.toList ++ ['"', ':', ' ']) := by cbv
    have hclose : "\x7d".toList = ['\x7d'] := by cbv
    unfold braces
    simp only [String.toList_append, hopen, hmid, hclose, toList_sequence, List.cons_append,
      List.nil_append, List.append_assoc]
  obtain ⟨s, hlead, hrest, hs⟩ := Yaml.Scan.leads_braces (bare_name .files) (by decide)
    (bare_name .patterns) (by decide) (lists_quote upper) htext
  rw [← List.nil_append [-1]] at hs
  obtain ⟨ts, hts, hkinds⟩ :=
    Yaml.Scan.tokens_eq (List.all_eq_true.mpr (printed_braces files patterns)) hlead hs
      (List.forall_mem_nil _) (Yaml.Scan.ahead_of_nil hrest)
  exact ⟨ts, hts, by simpa using hkinds⟩

lemma eraseDups_of_nodup {l : List String} (h : l.Nodup) : l.eraseDups = l := by
  rw [← addNew_eq_eraseDups, addNew_of_nodup (l := []) h, List.nil_append]

/-- Any two lists of any texts can be written, and are read back. -/
theorem parse_braces (upper : Bool) (files patterns : List String) :
    parse (braces upper files patterns) = .ok ⟨files.eraseDups, patterns.eraseDups⟩ ∧
    (files.Nodup → patterns.Nodup →
      parse (braces upper files patterns) = .ok ⟨files, patterns⟩) := by
  obtain ⟨ts, hts, hkinds⟩ := braces_tokens upper files patterns
  have hparse : parse (braces upper files patterns) =
      .ok ⟨files.eraseDups, patterns.eraseDups⟩ :=
    Yaml.Parse.parse_of_flow hts hkinds (by decide)
  refine ⟨hparse, fun hf hp => ?_⟩
  rw [hparse, eraseDups_of_nodup hf, eraseDups_of_nodup hp]

/-- Texts with a quotation mark, a backslash, a break and spaces, and one that is empty. -/
theorem parse_braces_marks :
    let files := ["a\"b\\", "", " c\n"]
    files.Nodup ∧ ["ä"].Nodup ∧ parse (braces true files ["ä"]) = .ok ⟨files, ["ä"]⟩ := by
  intro files
  have hf : files.Nodup := by decide
  have hp : ["ä"].Nodup := by decide
  exact ⟨hf, hp, (parse_braces true files ["ä"]).2 hf hp⟩

end braces

end ExampleSuite.RuleFile
