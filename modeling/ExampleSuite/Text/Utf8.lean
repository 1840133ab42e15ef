/-!
Byte strings and the text they spell.

A byte string is read as UTF-8 from the left. Each character that is spelled out in full is
read as itself, and each longest stretch that starts like a character and breaks off is one
flaw. Shown as text, a flaw becomes the replacement character.
-/

namespace ExampleSuite

abbrev Bytes := List UInt8

namespace Utf8

/-- How many bytes follow a leading byte, and the range its second byte lies in. -/
def lead (b : UInt8) : Option (Nat × UInt8 × UInt8) :=
  if 0xC2 ≤ b ∧ b ≤ 0xDF then some (1, 0x80, 0xBF)
  else if b = 0xE0 then some (2, 0xA0, 0xBF)
  else if b = 0xED then some (2, 0x80, 0x9F)
  else if 0xE1 ≤ b ∧ b ≤ 0xEF then some (2, 0x80, 0xBF)
  else if b = 0xF0 then some (3, 0x90, 0xBF)
  else if 0xF1 ≤ b ∧ b ≤ 0xF3 then some (3, 0x80, 0xBF)
  else if b = 0xF4 then some (3, 0x80, 0x8F)
  else none

def isTail (b : UInt8) : Bool := 0x80 ≤ b && b ≤ 0xBF

def join2 (a b : UInt8) : Char := Char.ofNat ((a.toNat % 32) * 64 + b.toNat % 64)
def join3 (a b c : UInt8) : Char :=
  Char.ofNat ((a.toNat % 16) * 4096 + (b.toNat % 64) * 64 + c.toNat % 64)
def join4 (a b c d : UInt8) : Char :=
  Char.ofNat ((a.toNat % 8) * 262144 + (b.toNat % 64) * 4096 + (c.toNat % 64) * 64 + d.toNat % 64)

/-- The characters of a byte string, with `none` for each flaw. -/
def parts : Bytes → List (Option Char)
  | [] => []
  | a :: r =>
    if a < 0x80 then some (Char.ofNat a.toNat) :: parts r
    else match lead a with
      | none => none :: parts r
      | some (n, lo, hi) =>
        match r with
        | [] => [none]
        | b :: r' =>
          if lo ≤ b ∧ b ≤ hi then
            if n = 1 then some (join2 a b) :: parts r'
            else match r' with
              | [] => [none]
              | c :: r'' =>
                if isTail c then
                  if n = 2 then some (join3 a b c) :: parts r''
                  else match r'' with
                    | [] => [none]
                    | d :: r''' =>
                      if isTail d then some (join4 a b c d) :: parts r'''
                      else none :: parts (d :: r''')
                else none :: parts (c :: r'')
          else none :: parts (b :: r')

/-- The characters of a byte string without flaws. -/
def decode (bs : Bytes) : Option (List Char) := (parts bs).mapM id

/-- The characters shown for a byte string. -/
def lossy (bs : Bytes) : List Char := (parts bs).map (·.getD '\uFFFD')

def encodeChar (c : Char) : Bytes :=
  let n := c.toNat
  if n < 0x80 then [UInt8.ofNat n]
  else if n < 0x800 then [UInt8.ofNat (0xC0 + n / 64), UInt8.ofNat (0x80 + n % 64)]
  else if n < 0x10000 then
    [UInt8.ofNat (0xE0 + n / 4096), UInt8.ofNat (0x80 + n / 64 % 64), UInt8.ofNat (0x80 + n % 64)]
  else
    [UInt8.ofNat (0xF0 + n / 262144), UInt8.ofNat (0x80 + n / 4096 % 64),
      UInt8.ofNat (0x80 + n / 64 % 64), UInt8.ofNat (0x80 + n % 64)]

def encode (cs : List Char) : Bytes := cs.flatMap encodeChar

@[simp] theorem parts_nil : parts [] = [] := rfl

theorem parts_ascii {a : UInt8} (h : a < 0x80) (r : Bytes) :
    parts (a :: r) = some (Char.ofNat a.toNat) :: parts r := by
  rw [parts]; simp [h]

@[simp] theorem encode_nil : encode [] = [] := rfl

theorem encode_append (s t : List Char) : encode (s ++ t) = encode s ++ encode t := by
  simp [encode]

end Utf8

namespace Bytes

def ofString (s : String) : Bytes := Utf8.encode s.toList

/-- The text shown for a byte string. -/
def display (bs : Bytes) : String := String.ofList (Utf8.lossy bs)

/-- The text of a byte string that is UTF-8 throughout. -/
def toString? (bs : Bytes) : Option String := (Utf8.decode bs).map String.ofList

/-- The pieces between the occurrences of a separator, at least one. -/
def splitOn (sep : UInt8) : Bytes → List Bytes
  | [] => [[]]
  | b :: bs =>
    if b = sep then [] :: splitOn sep bs
    else match splitOn sep bs with
      | [] => [[b]]
      | p :: ps => (b :: p) :: ps

end Bytes

/-- Some stretch of the second list is the first. -/
def occursIn {α : Type} [BEq α] (p : List α) : List α → Bool
  | [] => p.isEmpty
  | a :: as => p.isPrefixOf (a :: as) || occursIn p as

end ExampleSuite
