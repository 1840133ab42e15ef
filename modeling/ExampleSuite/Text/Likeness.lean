/-!
How alike two words are.

Letters match if they are equal and no further apart than half the longer word. The likeness
is the mean of the matched share of each word and of the matched letters that stand in the
same order.
-/

namespace ExampleSuite.Likeness

/-- The first letter of a word that is equal to another, free, and no further left or right
than allowed. -/
def findFree (c : Char) (lo hi : Nat) : Nat → List (Char × Bool) → Option Nat
  | _, [] => none
  | j, (d, used) :: r =>
    if lo ≤ j ∧ j < hi ∧ d = c ∧ used = false then some j else findFree c lo hi (j + 1) r

def use (j : Nat) (b : List (Char × Bool)) : List (Char × Bool) := b.modify j fun x => (x.1, true)

/-- The matched letters of the first word, and the second word with its matched letters
marked. -/
def pairs (range : Nat) : Nat → List Char → List (Char × Bool) → List Char × List (Char × Bool)
  | _, [], b => ([], b)
  | i, c :: cs, b =>
    match findFree c (i - range) (i + range + 1) 0 b with
    | none => pairs range (i + 1) cs b
    | some j =>
      let r := pairs range (i + 1) cs (use j b)
      (c :: r.1, r.2)

def likeness (a b : List Char) : Float :=
  if a.isEmpty && b.isEmpty then 1
  else
    let range := max a.length b.length / 2 - 1
    let (left, marked) := pairs range 0 a (b.map (·, false))
    let right := (marked.filter (·.2)).map (·.1)
    let swaps := (left.zip right).countP (fun x => x.1 != x.2) / 2
    if left.isEmpty then 0
    else
      let m := left.length.toFloat
      (m / a.length.toFloat + m / b.length.toFloat + (left.length - swaps).toFloat / m) / 3

/-- The word most like a given one, if any is like it enough. Of equals the last counts. -/
def closest (word : String) (among : List String) : Option String :=
  let step (best : Option (Float × String)) (s : String) :=
    let x := likeness word.toList s.toList
    if 0.7 < x then
      match best with
      | some (y, _) => if x < y then best else some (x, s)
      | none => some (x, s)
    else best
  (among.foldl step none).map (·.2)

end ExampleSuite.Likeness
