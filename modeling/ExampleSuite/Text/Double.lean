/-!
Binary floating point numbers of 64 bits, read from decimals and written as decimals.

A finite number is `m * 2^q` with `m < 2^53` and `-1074 ≤ q ≤ 971`. A decimal is read as the
nearest number, of two equally near the even one. A number is written with the fewest digits
that are read back as itself, of several such the nearest, always in positional notation.
-/

namespace ExampleSuite

/-- A finite number. -/
structure Double where
  negative : Bool
  m : Nat
  q : Int
  deriving DecidableEq, Repr

namespace Double

/-- A positive fraction. -/
structure Frac where
  num : Nat
  den : Nat

/-- `num / den * b^e`. -/
def Frac.scale (x : Frac) (b : Nat) (e : Int) : Frac :=
  if 0 ≤ e then ⟨x.num * Nat.pow b e.toNat, x.den⟩ else ⟨x.num, x.den * Nat.pow b (-e).toNat⟩

/-- The nearest natural number, of two the even one. -/
def Frac.round (x : Frac) : Nat :=
  let a := x.num / x.den
  let r := x.num % x.den
  if 2 * r < x.den ∨ (2 * r = x.den ∧ a % 2 = 0) then a else a + 1

/-- The exponent of the greatest power of two that is not above a fraction. -/
def Frac.log2 (x : Frac) : Int :=
  let k : Int := (x.num.log2 : Int) - x.den.log2
  let y := x.scale 2 (-k)
  if y.num < y.den then k - 1 else k

/-- The number nearest to `d * 10^e`, if that is not too great. -/
def ofDecimal (negative : Bool) (d : Nat) (e : Int) : Option Double :=
  let size : Int := (Nat.toDigits 10 d).length
  if d = 0 then some ⟨negative, 0, -1074⟩
  else if e + size < -400 then some ⟨negative, 0, -1074⟩
  else if 400 < e + size then none
  else
    let x := (Frac.mk d 1).scale 10 e
    let q := max (x.log2 - 52) (-1074)
    let m := (x.scale 2 (-q)).round
    let (m, q) := if m = 0x20000000000000 then (0x10000000000000, q + 1) else (m, q)
    if 971 < q then none else some ⟨negative, m, q⟩

/-- The ends of the interval of decimals that are read as a positive number, in units of
`2^(q-2)`. -/
def ends (x : Double) : Nat × Nat :=
  (4 * x.m - (if x.m = 0x10000000000000 ∧ -1074 < x.q then 1 else 2), 4 * x.m + 2)

/-- `n * 10^g` is read as the number. -/
def readsBack (x : Double) (n : Nat) (g : Int) : Bool :=
  let y := ((Frac.mk n 1).scale 10 g).scale 2 (2 - x.q)
  let (lo, hi) := x.ends
  if x.m % 2 = 0 then lo * y.den ≤ y.num && y.num ≤ hi * y.den
  else lo * y.den < y.num && y.num < hi * y.den

/-- The exponent of the greatest power of ten that is not above a fraction, found by search
from a first guess. -/
def Frac.log10 (x : Frac) : Nat → Int → Int
  | 0, e => e
  | fuel + 1, e =>
    let y := x.scale 10 (-e)
    if y.num < y.den then Frac.log10 x fuel (e - 1)
    else if 10 * y.den ≤ y.num then Frac.log10 x fuel (e + 1)
    else e

/-- The shortest decimal from a number of digits on, as digits and exponent. -/
def shortestFrom (x : Double) (e : Int) : Nat → Nat → Nat × Int
  | 0, digits => (x.m, digits)
  | fuel + 1, digits =>
    let g := e - digits + 1
    let y := ((Frac.mk x.m 1).scale 2 x.q).scale 10 (-g)
    let a := y.num / y.den
    match x.readsBack a g, x.readsBack (a + 1) g with
    | true, true => (y.round, g)
    | true, false => (a, g)
    | false, true => (a + 1, g)
    | false, false => shortestFrom x e fuel (digits + 1)

def shortest (x : Double) : Nat × Int :=
  let f := (Frac.mk x.m 1).scale 2 x.q
  let e := f.log10 700 (f.log2 * 3 / 10)
  x.shortestFrom e 18 1

/-- Drops zeros at the end of the digits. -/
def trim : List Char → List Char := fun ds => (ds.reverse.dropWhile (· == '0')).reverse

/-- The number in positional notation, with at least one place behind the point. -/
def text (x : Double) : String :=
  let body :=
    if x.m = 0 then "0.0"
    else
      let (n, g) := x.shortest
      let all := Nat.toDigits 10 n
      let point : Int := all.length + g
      let ds := trim all
      if point ≤ 0 then "0." ++ String.ofList (List.replicate (-point).toNat '0' ++ ds)
      else if ds.length ≤ point.toNat then
        String.ofList (ds ++ List.replicate (point.toNat - ds.length) '0') ++ ".0"
      else String.ofList (ds.take point.toNat) ++ "." ++ String.ofList (ds.drop point.toNat)
  if x.negative then "-" ++ body else body

end Double

end ExampleSuite
