/-!
Sets of characters as increasing ranges.

A table of ranges is written as text: the ends of each range in hexadecimal with a hyphen
between them, or a single number, and blanks between the ranges. Membership is decided by
binary search.
-/

namespace ExampleSuite

/-- Inclusive ranges of code points, in increasing order. -/
abbrev Ranges := Array (Nat × Nat)

namespace Ranges

/-! ### Reading a table -/

def digit? (c : Char) : Option Nat :=
  if '0' ≤ c ∧ c ≤ '9' then some (c.toNat - 48)
  else if 'A' ≤ c ∧ c ≤ 'F' then some (c.toNat - 55)
  else none

structure Reading where
  done : Ranges
  /-- The first end of a range whose second end is being read. -/
  low : Option Nat
  number : Option Nat

namespace Reading

def start : Reading := ⟨#[], none, none⟩

def close (r : Reading) : Reading :=
  match r.low, r.number with
  | some a, some b => ⟨r.done.push (a, b), none, none⟩
  | none, some b => ⟨r.done.push (b, b), none, none⟩
  | _, none => r

def step (r : Reading) (c : Char) : Reading :=
  match digit? c with
  | some d => { r with number := some (r.number.getD 0 * 16 + d) }
  | none => if c = '-' then { r with low := r.number, number := none } else r.close

end Reading

def ofText (s : String) : Ranges := (s.toList.foldl Reading.step .start).close.done

/-! ### Membership -/

/-- Binary search between two positions, for no more than so many halvings. -/
def search (t : Ranges) (n : Nat) : Nat → Nat → Nat → Bool
  | 0, _, _ => false
  | fuel + 1, lo, hi =>
    if lo < hi then
      let mid := (lo + hi) / 2
      match t[mid]? with
      | none => false
      | some (a, b) =>
        if n < a then search t n fuel lo mid
        else if b < n then search t n fuel (mid + 1) hi
        else true
    else false

def has (t : Ranges) (c : Char) : Bool := search t c.toNat (t.size + 1) 0 t.size

end Ranges

end ExampleSuite
