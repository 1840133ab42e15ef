import ExampleSuite.Text.Double
import ExampleSuite.Yaml.Node

/-!
What a plain scalar stands for: nothing, a truth value, an integer, a number, or its text.

Integers may be written in base 16, 8 or 2 behind `0x`, `0o` and `0b`. Digits behind a
leading zero are text.
-/

namespace ExampleSuite.Yaml

inductive Value where
  | null
  | bool (b : Bool)
  /-- An integer, and the width it needs where 64 bits are too few. -/
  | int (n : Int) (wide : Option String)
  | float (x : Double)
  | infinite (negative : Bool)
  | notANumber
  | text (s : List Char)

namespace Value

def isNull (s : List Char) : Bool :=
  ["null", "Null", "NULL", "~"].any fun t => t.toList == s

def bool? (s : List Char) : Option Bool :=
  if ["true", "True", "TRUE"].any fun t => t.toList == s then some true
  else if ["false", "False", "FALSE"].any fun t => t.toList == s then some false
  else none

/-- The value of a digit in a base up to 16. -/
def digit? (base : Nat) (c : Char) : Option Nat :=
  (hexValue c).bind fun d => if d < base then some d else none

/-- The number that digits of a base spell; there is at least one. -/
def natural? (base : Nat) (s : List Char) : Option Nat :=
  if s = [] then none else s.foldlM (fun n c => (digit? base c).map (n * base + ·)) 0

/-- A leading zero with nothing but digits behind it, whatever the sign. -/
def zeroPadded (s : List Char) : Bool :=
  let s := match s with
    | '-' :: r => r
    | '+' :: r => r
    | _ => s
  match s with
  | '0' :: d :: r => (d :: r).all Char.isDigit
  | _ => false

def signNext : List Char → Bool
  | '+' :: _ => true
  | '-' :: _ => true
  | _ => false

/-- Digits of one base, of which a sign may not be the first. -/
def based? (base : Nat) (mark : Char) (s : List Char) : Option (Option Nat) :=
  match s with
  | '0' :: c :: r => if c = mark then some (if signNext r then none else natural? base r) else none
  | _ => none

def unsigned? (s : List Char) : Option Nat :=
  let u := match s with
    | '+' :: r => r
    | _ => s
  match based? 16 'x' u, based? 8 'o' u, based? 2 'b' u with
  | some (some n), _, _ => some n
  | _, some (some n), _ => some n
  | _, _, some (some n) => some n
  | _, _, _ => if signNext u ∨ zeroPadded s then none else natural? 10 u

def negative? (s : List Char) : Option Int :=
  match s with
  | '-' :: r =>
    match based? 16 'x' r, based? 8 'o' r, based? 2 'b' r with
    | some (some n), _, _ => some (-n)
    | _, some (some n), _ => some (-n)
    | _, _, some (some n) => some (-n)
    | _, _, _ => if zeroPadded s then none else (natural? 10 r).map (-·)
  | _ => none

def int? (s : List Char) : Option Value :=
  match unsigned? s with
  | some n =>
    if n < 0x10000000000000000 then some (.int n none)
    else if n < 0x100000000000000000000000000000000 then some (.int n (some "u128"))
    else none
  | none =>
    match negative? s with
    | some n =>
      if -0x8000000000000000 ≤ n then some (.int n none)
      else if -0x80000000000000000000000000000000 ≤ n then some (.int n (some "i128"))
      else none
    | none => none

/-- Digits with an optional point, and an optional exponent; some digit is in front of it. -/
def decimal? (s : List Char) : Option (Nat × Int) :=
  let whole := s.takeWhile Char.isDigit
  let s := s.dropWhile Char.isDigit
  let (places, s) := match s with
    | '.' :: r => (r.takeWhile Char.isDigit, r.dropWhile Char.isDigit)
    | _ => ([], s)
  let digits := whole ++ places
  match natural? 10 digits with
  | none => none
  | some d =>
    let shift : Int := -places.length
    match s with
    | [] => some (d, shift)
    | c :: r =>
      if c = 'e' ∨ c = 'E' then
        match r with
        | '-' :: r => (natural? 10 r).map fun e => (d, shift - e)
        | '+' :: r => (natural? 10 r).map fun e => (d, shift + e)
        | _ => (natural? 10 r).map fun e => (d, shift + e)
      else none

def isSpelled (names : List String) (s : List Char) : Bool := names.any fun t => t.toList == s

def float? (s : List Char) : Option Value :=
  let u := match s with
    | '+' :: r => r
    | _ => s
  if u.length < s.length ∧ signNext u then none
  else if isSpelled [".inf", ".Inf", ".INF"] u then some (.infinite false)
  else if isSpelled ["-.inf", "-.Inf", "-.INF"] s then some (.infinite true)
  else if isSpelled [".nan", ".NaN", ".NAN"] s then some .notANumber
  else
    let (neg, u) := match u with
      | '-' :: r => (true, r)
      | _ => (false, u)
    (decimal? u).bind fun (d, e) => (Double.ofDecimal neg d e).map .float

/-- The value of a plain scalar without a tag. -/
def ofPlain (s : List Char) : Value :=
  if s = [] ∨ isNull s then .null
  else match bool? s with
    | some b => .bool b
    | none =>
      match int? s with
      | some v => v
      | none =>
        if zeroPadded s then .text s else (float? s).getD (.text s)

end Value

end ExampleSuite.Yaml
