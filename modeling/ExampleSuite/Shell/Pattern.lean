import ExampleSuite.Shell.Syntax

/-!
Patterns of names.

A star stands for any text, a question mark for any character and a bracket for any of the
characters in it. A quoted character stands for itself.
-/

namespace ExampleSuite.Shell

/-- A character and whether it may act as part of a pattern. -/
abbrev Sign := Char × Bool

inductive Glob where
  | char (c : Char)
  | any
  | star
  | oneOf (negated : Bool) (ranges : List (Char × Char))
  deriving DecidableEq, Repr

namespace Glob

/-- The ranges in a bracket, and what follows it. -/
def ranges : Bool → List Sign → Option (List (Char × Char) × List Sign)
  | _, [] => none
  | first, (']', a) :: r =>
    if first || !a then (ranges false r).map fun x => ((']', ']') :: x.1, x.2) else some ([], r)
  | _, (c, _) :: ('-', true) :: (d, b) :: r =>
    if d == ']' && b then (ranges false ((d, b) :: r)).map fun x => ((c, c) :: ('-', '-') :: x.1, x.2)
    else (ranges false r).map fun x => ((c, d) :: x.1, x.2)
  | _, (c, _) :: r => (ranges false r).map fun x => ((c, c) :: x.1, x.2)

def bracket (r : List Sign) : Option (Glob × List Sign) :=
  match r with
  | ('!', true) :: r => (ranges true r).map fun x => (.oneOf true x.1, x.2)
  | r => (ranges true r).map fun x => (.oneOf false x.1, x.2)

/-- The pattern that a text spells. -/
def ofSigns : Nat → List Sign → List Glob
  | 0, _ | _, [] => []
  | n + 1, ('*', true) :: r => .star :: ofSigns n r
  | n + 1, ('?', true) :: r => .any :: ofSigns n r
  | n + 1, ('[', true) :: r =>
    match bracket r with
    | some (g, r) => g :: ofSigns n r
    | none => .char '[' :: ofSigns n r
  | n + 1, (c, _) :: r => .char c :: ofSigns n r

def suffixes : Text → List Text
  | [] => [[]]
  | c :: r => (c :: r) :: suffixes r

def fits : List Glob → Text → Bool
  | [], t => t.isEmpty
  | .star :: gs, t => (suffixes t).any (fits gs)
  | .any :: gs, _ :: t => fits gs t
  | .char c :: gs, d :: t => c == d && fits gs t
  | .oneOf neg rs :: gs, d :: t =>
    (rs.any (fun r => r.1 ≤ d && d ≤ r.2) != neg) && fits gs t
  | _ :: _, [] => false

end Glob

def pattern (s : List Sign) : List Glob := Glob.ofSigns s.length s

def isActive (s : List Sign) : Bool := s.any fun x => x.2 && "*?[".toList.contains x.1

end ExampleSuite.Shell
