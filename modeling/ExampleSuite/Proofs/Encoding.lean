import ExampleSuite.Text.Utf8
import Mathlib

/-!
Byte strings that are UTF-8.

A byte string is read without a flaw if and only if it is the encoding of a text, and then it is
read as that text.
-/

namespace ExampleSuite

namespace Utf8

/-! ### One character -/

lemma toNat_ofNat_of_isValidChar {n : ℕ} (h : n.isValidChar) : (Char.ofNat n).toNat = n := by
  rw [Char.ofNat, dif_pos h]
  simp [Char.ofNatAux, Char.toNat]

section bytes

variable {a b c d : UInt8}

/-- A byte that continues a character. -/
def Tail (b : UInt8) : Prop := 0x80 ≤ b.toNat ∧ b.toNat ≤ 0xBF

/-- Two bytes that begin a character of three. -/
structure Opens3 (a b : UInt8) : Prop where
  first : 0xE0 ≤ a.toNat ∧ a.toNat ≤ 0xEF
  second : Tail b
  low : a.toNat = 0xE0 → 0xA0 ≤ b.toNat
  high : a.toNat = 0xED → b.toNat ≤ 0x9F

/-- Two bytes that begin a character of four. -/
structure Opens4 (a b : UInt8) : Prop where
  first : 0xF0 ≤ a.toNat ∧ a.toNat ≤ 0xF4
  second : Tail b
  low : a.toNat = 0xF0 → 0x90 ≤ b.toNat
  high : a.toNat = 0xF4 → b.toNat ≤ 0x8F

lemma isTail_iff : isTail b = true ↔ Tail b := by
  simp [isTail, Tail, UInt8.le_iff_toNat_le]

/-- The table of leading bytes, by their numbers. -/
lemma lead_eq (a : UInt8) : lead a =
    if 0xC2 ≤ a.toNat ∧ a.toNat ≤ 0xDF then some (1, 0x80, 0xBF)
    else if a.toNat = 0xE0 then some (2, 0xA0, 0xBF)
    else if a.toNat = 0xED then some (2, 0x80, 0x9F)
    else if 0xE1 ≤ a.toNat ∧ a.toNat ≤ 0xEF then some (2, 0x80, 0xBF)
    else if a.toNat = 0xF0 then some (3, 0x90, 0xBF)
    else if 0xF1 ≤ a.toNat ∧ a.toNat ≤ 0xF3 then some (3, 0x80, 0xBF)
    else if a.toNat = 0xF4 then some (3, 0x80, 0x8F)
    else none := by
  simp only [lead, UInt8.le_iff_toNat_le, ← UInt8.toNat_inj, UInt8.reduceToNat]

/-- What the first two bytes say about the length of a character. -/
lemma lead_eq_some {lo hi : UInt8} {n : ℕ} (h : lead a = some (n, lo, hi)) (hb : lo ≤ b ∧ b ≤ hi) :
    n = 1 ∧ (0xC2 ≤ a.toNat ∧ a.toNat ≤ 0xDF) ∧ Tail b ∨
      n = 2 ∧ Opens3 a b ∨ n = 3 ∧ Opens4 a b := by
  simp only [UInt8.le_iff_toNat_le] at hb
  rw [lead_eq] at h
  split_ifs at h with h₁ h₂ h₃ h₄ h₅ h₆ h₇ <;> obtain ⟨rfl, rfl, rfl⟩ := h <;>
    simp only [UInt8.reduceToNat] at hb
  · exact .inl ⟨rfl, h₁, hb⟩
  all_goals first
    | exact .inr (.inl ⟨rfl, by omega, by unfold Tail; omega, by omega, by omega⟩)
    | exact .inr (.inr ⟨rfl, by omega, by unfold Tail; omega, by omega, by omega⟩)

lemma lead_two (ha : 0xC2 ≤ a.toNat ∧ a.toNat ≤ 0xDF) : lead a = some (1, 0x80, 0xBF) := by
  rw [lead_eq, if_pos ha]

lemma Opens3.lead (h : Opens3 a b) : ∃ lo hi, lead a = some (2, lo, hi) ∧ lo ≤ b ∧ b ≤ hi := by
  obtain ⟨ha, ⟨hb, hb'⟩, hlow, hhigh⟩ := h
  simp only [UInt8.le_iff_toNat_le]
  rw [lead_eq, if_neg (by omega)]
  split_ifs with h₂ h₃ h₄
  · exact ⟨_, _, rfl, hlow h₂, hb'⟩
  · exact ⟨_, _, rfl, hb, hhigh h₃⟩
  · exact ⟨_, _, rfl, hb, hb'⟩
  all_goals omega

lemma Opens4.lead (h : Opens4 a b) : ∃ lo hi, lead a = some (3, lo, hi) ∧ lo ≤ b ∧ b ≤ hi := by
  obtain ⟨ha, ⟨hb, hb'⟩, hlow, hhigh⟩ := h
  simp only [UInt8.le_iff_toNat_le]
  rw [lead_eq, if_neg (by omega), if_neg (by omega), if_neg (by omega), if_neg (by omega)]
  split_ifs with h₅ h₆ h₇
  · exact ⟨_, _, rfl, hlow h₅, hb'⟩
  · exact ⟨_, _, rfl, hb, hb'⟩
  · exact ⟨_, _, rfl, hb, hhigh h₇⟩
  · omega

lemma encodeChar_ascii (ha : a < 0x80) : encodeChar (Char.ofNat a.toNat) = [a] := by
  have hlt : a.toNat < 0x80 := by simpa [UInt8.lt_iff_toNat_lt] using ha
  have hn := toNat_ofNat_of_isValidChar (n := a.toNat) (by unfold Nat.isValidChar; omega)
  rw [encodeChar, hn, if_pos hlt, UInt8.ofNat_toNat]

lemma encodeChar_join2 (ha : 0xC2 ≤ a.toNat ∧ a.toNat ≤ 0xDF) (hb : Tail b) :
    encodeChar (join2 a b) = [a, b] := by
  obtain ⟨hb, hb'⟩ := hb
  have hn : (join2 a b).toNat = a.toNat % 32 * 64 + b.toNat % 64 :=
    toNat_ofNat_of_isValidChar (by unfold Nat.isValidChar; omega)
  rw [encodeChar, hn, if_neg (by omega), if_pos (by omega)]
  simp only [List.cons.injEq, ← UInt8.toNat_inj, UInt8.toNat_ofNat', and_true]
  omega

lemma Opens3.encodeChar_join3 (h : Opens3 a b) (hc : Tail c) :
    encodeChar (join3 a b c) = [a, b, c] := by
  obtain ⟨ha, ⟨hb, hb'⟩, hlow, hhigh⟩ := h
  obtain ⟨hc, hc'⟩ := hc
  have hn : (join3 a b c).toNat = a.toNat % 16 * 4096 + b.toNat % 64 * 64 + c.toNat % 64 :=
    toNat_ofNat_of_isValidChar (by unfold Nat.isValidChar; omega)
  rw [encodeChar, hn, if_neg (by omega), if_neg (by omega), if_pos (by omega)]
  simp only [List.cons.injEq, ← UInt8.toNat_inj, UInt8.toNat_ofNat', and_true]
  omega

lemma Opens4.encodeChar_join4 (h : Opens4 a b) (hc : Tail c) (hd : Tail d) :
    encodeChar (join4 a b c d) = [a, b, c, d] := by
  obtain ⟨ha, ⟨hb, hb'⟩, hlow, hhigh⟩ := h
  obtain ⟨hc, hc'⟩ := hc
  obtain ⟨hd, hd'⟩ := hd
  have hn : (join4 a b c d).toNat =
      a.toNat % 8 * 262144 + b.toNat % 64 * 4096 + c.toNat % 64 * 64 + d.toNat % 64 :=
    toNat_ofNat_of_isValidChar (by unfold Nat.isValidChar; omega)
  rw [encodeChar, hn, if_neg (by omega), if_neg (by omega), if_neg (by omega)]
  simp only [List.cons.injEq, ← UInt8.toNat_inj, UInt8.toNat_ofNat', and_true]
  omega

end bytes

/-- How many bytes a character has is how it is encoded. -/
inductive Encoded : Char → Bytes → Prop where
  | one {a : UInt8} (ha : a < 0x80) : Encoded (Char.ofNat a.toNat) [a]
  | two {a b : UInt8} (ha : 0xC2 ≤ a.toNat ∧ a.toNat ≤ 0xDF) (hb : Tail b) :
      Encoded (join2 a b) [a, b]
  | three {a b c : UInt8} (h : Opens3 a b) (hc : Tail c) : Encoded (join3 a b c) [a, b, c]
  | four {a b c d : UInt8} (h : Opens4 a b) (hc : Tail c) (hd : Tail d) :
      Encoded (join4 a b c d) [a, b, c, d]

lemma Encoded.encodeChar {c : Char} {bs : Bytes} (h : Encoded c bs) : encodeChar c = bs := by
  cases h with
  | one ha => exact encodeChar_ascii ha
  | two ha hb => exact encodeChar_join2 ha hb
  | three h hc => exact h.encodeChar_join3 hc
  | four h hc hd => exact h.encodeChar_join4 hc hd

lemma Encoded.parts {c : Char} {bs : Bytes} (h : Encoded c bs) (r : Bytes) :
    parts (bs ++ r) = some c :: parts r := by
  cases h with
  | one ha => exact parts_ascii ha r
  | @two a b ha hb =>
    have hlt : ¬ a < 0x80 := by simp [UInt8.lt_iff_toNat_lt]; omega
    have hb' : (0x80 : UInt8) ≤ b ∧ b ≤ 0xBF := by simpa [UInt8.le_iff_toNat_le, Tail] using hb
    simp [Utf8.parts, hlt, lead_two ha, hb']
  | @three a b c h hc =>
    have hlt : ¬ a < 0x80 := by simp [UInt8.lt_iff_toNat_lt]; have := h.first; omega
    obtain ⟨lo, hi, hl, hb⟩ := h.lead
    simp [Utf8.parts, hlt, hl, hb, isTail_iff.mpr hc]
  | @four a b c d h hc hd =>
    have hlt : ¬ a < 0x80 := by simp [UInt8.lt_iff_toNat_lt]; have := h.first; omega
    obtain ⟨lo, hi, hl, hb⟩ := h.lead
    simp [Utf8.parts, hlt, hl, hb, isTail_iff.mpr hc, isTail_iff.mpr hd]

/-- A byte of ASCII is found in no longer character. -/
lemma Encoded.ascii {c : Char} {bs : Bytes} (h : Encoded c bs) {a : UInt8} (ha : a < 0x80)
    (hm : a ∈ bs) : c = Char.ofNat a.toNat := by
  have hlt : a.toNat < 0x80 := by simpa [UInt8.lt_iff_toNat_lt] using ha
  have large {b : UInt8} (hb : 0x80 ≤ b.toNat) : a ≠ b := by
    rintro rfl
    exact absurd hb (Nat.not_le.mpr hlt)
  cases h with
  | one hb => rw [List.mem_singleton.mp hm]
  | two hb hc => simp [large (Nat.le_trans (by decide) hb.1), large hc.1] at hm
  | three h hd =>
    simp [large (Nat.le_trans (by decide) h.first.1), large h.second.1, large hd.1] at hm
  | four h hd he =>
    simp [large (Nat.le_trans (by decide) h.first.1), large h.second.1, large hd.1, large he.1]
      at hm

lemma encoded_encodeChar (c : Char) : Encoded c (encodeChar c) := by
  have hv : c.toNat < 0xD800 ∨ 0xDFFF < c.toNat ∧ c.toNat < 0x110000 := c.valid
  have hc := Char.ofNat_toNat c
  have byte (n : ℕ) (hn : n < 256) : (UInt8.ofNat n).toNat = n := by
    rw [UInt8.toNat_ofNat', Nat.mod_eq_of_lt hn]
  rw [encodeChar]
  split_ifs with h₁ h₂ h₃
  · have ha := byte c.toNat (by omega)
    have h := Encoded.one (a := .ofNat c.toNat) (by simp [UInt8.lt_iff_toNat_lt]; omega)
    rwa [ha, hc] at h
  · have ha := byte (0xC0 + c.toNat / 64) (by omega)
    have hb := byte (0x80 + c.toNat % 64) (by omega)
    generalize UInt8.ofNat (0xC0 + c.toNat / 64) = a at *
    generalize UInt8.ofNat (0x80 + c.toNat % 64) = b at *
    have h := Encoded.two (a := a) (b := b) (by omega) (by unfold Tail; omega)
    rwa [join2, show a.toNat % 32 * 64 + b.toNat % 64 = c.toNat by omega, hc] at h
  · have ha := byte (0xE0 + c.toNat / 4096) (by omega)
    have hb := byte (0x80 + c.toNat / 64 % 64) (by omega)
    have hd := byte (0x80 + c.toNat % 64) (by omega)
    generalize UInt8.ofNat (0xE0 + c.toNat / 4096) = a at *
    generalize UInt8.ofNat (0x80 + c.toNat / 64 % 64) = b at *
    generalize UInt8.ofNat (0x80 + c.toNat % 64) = d at *
    have h := Encoded.three (a := a) (b := b) (c := d)
      ⟨by omega, by unfold Tail; omega, by omega, by omega⟩ (by unfold Tail; omega)
    rwa [join3, show a.toNat % 16 * 4096 + b.toNat % 64 * 64 + d.toNat % 64 = c.toNat by omega,
      hc] at h
  · have ha := byte (0xF0 + c.toNat / 262144) (by omega)
    have hb := byte (0x80 + c.toNat / 4096 % 64) (by omega)
    have hd := byte (0x80 + c.toNat / 64 % 64) (by omega)
    have he := byte (0x80 + c.toNat % 64) (by omega)
    generalize UInt8.ofNat (0xF0 + c.toNat / 262144) = a at *
    generalize UInt8.ofNat (0x80 + c.toNat / 4096 % 64) = b at *
    generalize UInt8.ofNat (0x80 + c.toNat / 64 % 64) = d at *
    generalize UInt8.ofNat (0x80 + c.toNat % 64) = e at *
    have h := Encoded.four (a := a) (b := b) (c := d) (d := e)
      ⟨by omega, by unfold Tail; omega, by omega, by omega⟩ (by unfold Tail; omega)
      (by unfold Tail; omega)
    rwa [join4, show a.toNat % 8 * 262144 + b.toNat % 64 * 4096 + d.toNat % 64 * 64 +
      e.toNat % 64 = c.toNat by omega, hc] at h

lemma exists_encoded {bs : Bytes} {c : Char} {ps : List (Option Char)}
    (h : parts bs = some c :: ps) : ∃ cs r, Encoded c cs ∧ bs = cs ++ r ∧ parts r = ps := by
  revert h
  fun_cases parts bs
  case case2 a r ha =>
    rintro ⟨⟩
    exact ⟨_, _, .one ha, rfl, rfl⟩
  case case5 a ha lo hi b r hb hl =>
    obtain ⟨-, ha, hb⟩ | ⟨hn, -⟩ | ⟨hn, -⟩ := lead_eq_some hl hb
    · rintro ⟨⟩
      exact ⟨_, _, .two ha hb, rfl, rfl⟩
    all_goals cases hn
  case case7 a ha lo hi b hb d r hd hl hn =>
    obtain ⟨hn, -⟩ | ⟨-, ho⟩ | ⟨hn, -⟩ := lead_eq_some hl hb
    · cases hn
    · rintro ⟨⟩
      exact ⟨_, _, .three ho (isTail_iff.mp hd), rfl, rfl⟩
    · cases hn
  case case9 a ha n lo hi hl b hb h₁ d hd h₂ e r he =>
    obtain ⟨hn, -⟩ | ⟨hn, -⟩ | ⟨-, ho⟩ := lead_eq_some hl hb
    · exact absurd hn h₁
    · exact absurd hn h₂
    · rintro ⟨⟩
      exact ⟨_, _, .four ho (isTail_iff.mp hd) (isTail_iff.mp he), rfl, rfl⟩
  -- in all other cases the bytes begin with a flaw
  all_goals nofun

/-! ### Texts -/

lemma parts_ne_nil {bs : Bytes} (h : bs ≠ []) : parts bs ≠ [] := by
  fun_cases parts bs <;> first | exact absurd rfl h | exact List.cons_ne_nil _ _

lemma mapM_id_eq_some_iff {α : Type} {l : List (Option α)} {as : List α} :
    l.mapM id = some as ↔ l = as.map some := by
  induction l generalizing as with
  | nil => cases as <;> simp
  | cons o l ih =>
    cases o with
    | none => cases as <;> simp
    | some a => cases as <;> simp [Option.bind_eq_some_iff, ih, and_comm]

/-- Without a flaw is read what encodes a text, and as that text. -/
theorem parts_eq_map_some_iff {bs : Bytes} {cs : List Char} :
    parts bs = cs.map some ↔ bs = encode cs := by
  constructor
  · intro h
    induction cs generalizing bs with
    | nil =>
      cases bs with
      | nil => rfl
      | cons a r => exact absurd h (parts_ne_nil (List.cons_ne_nil a r))
    | cons c cs ih =>
      obtain ⟨w, r, hw, rfl, hr⟩ := exists_encoded h
      rw [ih hr, ← hw.encodeChar]
      simp [encode]
  · rintro rfl
    induction cs with
    | nil => rfl
    | cons c cs ih =>
      have hc := (encoded_encodeChar c).parts (encode cs)
      rw [ih] at hc
      simpa [encode] using hc

lemma decode_eq_some_iff {bs : Bytes} {cs : List Char} : decode bs = some cs ↔ bs = encode cs := by
  rw [← parts_eq_map_some_iff, decode, mapM_id_eq_some_iff]

lemma encode_injective : Function.Injective encode := by
  intro cs ds h
  exact Option.some.inj ((decode_eq_some_iff.mpr rfl).symm.trans (decode_eq_some_iff.mpr h))

/-! ### Texts that are shown -/

lemma exists_rest {bs : Bytes} {o : Option Char} {ps : List (Option Char)}
    (h : parts bs = o :: ps) : ∃ r, r <:+ bs ∧ parts r = ps := by
  revert h
  fun_cases parts bs <;> intro h <;> cases h
  case case4 | case6 | case8 => exact ⟨[], List.nil_suffix, rfl⟩
  all_goals
    refine ⟨_, ?_, rfl⟩
    first
    | exact List.suffix_append [_] _
    | exact List.suffix_append [_, _] _
    | exact List.suffix_append [_, _, _] _
    | exact List.suffix_append [_, _, _, _] _

/-- A character that is read is spelled out somewhere. -/
lemma infix_of_mem_parts {bs : Bytes} {c : Char} (h : some c ∈ parts bs) :
    encodeChar c <:+: bs := by
  generalize hps : parts bs = ps at h
  induction ps generalizing bs with
  | nil => cases h
  | cons o ps ih =>
    rcases List.mem_cons.mp h with rfl | h
    · obtain ⟨cs, r, hc, rfl, -⟩ := exists_encoded hps
      rw [hc.encodeChar]
      exact ⟨[], r, rfl⟩
    · obtain ⟨r, hr, hp⟩ := exists_rest hps
      exact (ih hp h).trans hr.isInfix

/-- No byte of ASCII is shown that was not there. -/
lemma mem_of_mem_shown {bs : Bytes} {a : UInt8} (ha : a < 0x80) (h : a ∈ encode (lossy bs)) :
    a ∈ bs := by
  obtain ⟨c, hc, hac⟩ := List.mem_flatMap.mp h
  obtain rfl := (encoded_encodeChar c).ascii ha hac
  obtain ⟨o, ho, hoc⟩ := List.mem_map.mp hc
  cases o with
  | some d =>
    obtain rfl : d = _ := hoc
    exact (infix_of_mem_parts ho).subset hac
  | none =>
    have hlt : a.toNat < 0x80 := by simpa [UInt8.lt_iff_toNat_lt] using ha
    have hn := toNat_ofNat_of_isValidChar (n := a.toNat) (by unfold Nat.isValidChar; omega)
    rw [← hoc] at hn
    exact absurd hn (Nat.ne_of_gt (Nat.lt_trans hlt (by decide)))

lemma lossy_encode (cs : List Char) : lossy (encode cs) = cs := by
  rw [lossy, parts_eq_map_some_iff.mpr rfl, List.map_map]
  exact List.map_id cs

end Utf8

theorem Bytes.toString?_eq_some_iff {bs : Bytes} {s : String} :
    bs.toString? = some s ↔ bs = Bytes.ofString s := by
  rw [toString?, Option.map_eq_some_iff]
  constructor
  · rintro ⟨cs, hcs, rfl⟩
    rw [Utf8.decode_eq_some_iff.mp hcs, ofString, String.toList_ofList]
  · rintro rfl
    exact ⟨s.toList, Utf8.decode_eq_some_iff.mpr rfl, String.ofList_toList⟩

lemma Bytes.ofString_append (s t : String) :
    Bytes.ofString (s ++ t) = Bytes.ofString s ++ Bytes.ofString t := by
  rw [ofString, String.toList_append, Utf8.encode_append, ofString, ofString]

lemma Bytes.ofString_injective : Function.Injective Bytes.ofString :=
  fun _ _ h => String.toList_injective (Utf8.encode_injective h)

end ExampleSuite
