import ExampleSuite.Machine.State

/-!
What tools do to text.
-/

namespace ExampleSuite.Machine.Text

open Shell (Text)

/-- The lines of a text, and whether the last one was ended. -/
def lines (t : Text) : List Text :=
  match t.splitOn '\n' with
  | ls => if ls.getLast? = some [] then ls.dropLast else ls

def unlines (ls : List Text) : Text := ls.flatMap (· ++ ['\n'])

def number? (t : Text) : Option Nat :=
  if !t.isEmpty && t.all (·.isDigit) then some (Shell.Expand.number t) else none

def integer? (t : Text) : Option Int :=
  match t with
  | '-' :: r => (number? r).map fun n => -n
  | '+' :: r => (number? r).map fun n => n
  | r => (number? r).map fun n => n

def decimal (n : Nat) : Text := (toString n).toList

def padLeft (w : Nat) (t : Text) : Text := List.replicate (w - t.length) ' ' ++ t

/-! ### Escapes -/

def isOctal (c : Char) : Bool := '0' ≤ c && c ≤ '7'

def octal : Nat → Text → Nat × Text
  | 0, t => (0, t)
  | n + 1, t =>
    let ds := (t.take (n + 1)).takeWhile isOctal
    (ds.foldl (fun a c => a * 8 + (c.toNat - 48)) 0, t.drop ds.length)

def escapeChar : Char → Option Char
  | 'a' => some '\x07'
  | 'b' => some '\x08'
  | 'e' => some '\x1b'
  | 'f' => some '\x0c'
  | 'n' => some '\n'
  | 'r' => some '\r'
  | 't' => some '\t'
  | 'v' => some '\x0b'
  | '\\' => some '\\'
  | _ => none

def byte (n : Nat) : Char := Char.ofNat (n % 256)

/-- Replaces escapes. An octal one may have a zero in front of its three digits. The answer also
tells whether the text goes on to its end. -/
def unescape : Nat → Text → Text × Bool
  | 0, t => (t, true)
  | _, [] => ([], true)
  | n + 1, '\\' :: c :: r =>
    if c == 'c' then ([], false)
    else
      let cons (c : Char) (r : Text) := let x := unescape n r; (c :: x.1, x.2)
      if isOctal c then
        let x := octal 3 (if c == '0' && r.head?.any isOctal then r else c :: r)
        cons (byte x.1) x.2
      else
        match escapeChar c with
        | some d => cons d r
        | none => let x := unescape n r; ('\\' :: c :: x.1, x.2)
  | n + 1, c :: r => let x := unescape n r; (c :: x.1, x.2)

/-- What the shell's own echo prints. -/
def echo (args : List Text) : Text :=
  let (newline, args) := match args with
    | ['-', 'n'] :: r => (false, r)
    | r => (true, r)
  let t := [' '].intercalate args
  let (s, whole) := unescape t.length t
  s ++ if newline && whole then ['\n'] else []

/-- What the tool of that name prints. -/
def plainEcho : Bool → Bool → List Text → Text
  | newline, escapes, a :: r =>
    if a.length > 1 && a.head? == some '-' && a.tail.all ("neE".toList.contains ·) then
      plainEcho (newline && !a.contains 'n') (if a.contains 'e' then true else escapes) r
    else
      let t := [' '].intercalate (a :: r)
      let (s, whole) := if escapes then unescape t.length t else (t, true)
      s ++ if newline && whole then ['\n'] else []
  | newline, _, [] => if newline then ['\n'] else []

/-! ### Formats -/

structure Format where
  left : Bool
  zero : Bool
  width : Nat
  precision : Option Nat

def inBase (b : Nat) (n : Nat) : Text := Nat.toDigits b n

def pad (f : Format) (t : Text) : Text :=
  let fill := f.width - t.length
  if f.left then t ++ List.replicate fill ' '
  else if f.zero then
    match t with
    | '-' :: r => '-' :: List.replicate fill '0' ++ r
    | t => List.replicate fill '0' ++ t
  else List.replicate fill ' ' ++ t

def charValue (t : Text) : Int :=
  match t with
  | '\'' :: c :: _ | '"' :: c :: _ => c.toNat
  | t => (Shell.Sum.signed? t).getD 0

def conversion (f : Format) (c : Char) (arg : Text) : Option Text :=
  match c with
  | 's' => some (pad { f with zero := false } (match f.precision with
    | some n => arg.take n
    | none => arg))
  | 'b' => some (pad { f with zero := false } (unescape arg.length arg).1)
  | 'c' => some (pad { f with zero := false } (arg.take 1))
  | 'd' | 'i' => some (pad f (toString (charValue arg)).toList)
  | 'u' => some (pad f (decimal ((charValue arg) % 0x10000000000000000).toNat))
  | 'o' => some (pad f (inBase 8 ((charValue arg) % 0x10000000000000000).toNat))
  | 'x' => some (pad f (inBase 16 ((charValue arg) % 0x10000000000000000).toNat))
  | 'X' => some (pad f ((inBase 16 ((charValue arg) % 0x10000000000000000).toNat).map Char.toUpper))
  | _ => none

/-- The flags, width and precision behind a percent sign. -/
def formatOf (t : Text) : Format × Text :=
  let flags := t.takeWhile ("-0+ #".toList.contains ·)
  let t := t.drop flags.length
  let ws := t.takeWhile (·.isDigit)
  let t := t.drop ws.length
  let (p, t) := match t with
    | '.' :: r =>
      let ds := r.takeWhile (·.isDigit)
      (some (Shell.Expand.number ds), r.drop ds.length)
    | t => (none, t)
  (⟨flags.contains '-', flags.contains '0', Shell.Expand.number ws, p⟩, t)

/-- One pass over a format: the text, the arguments left, and whether to go on. -/
def formatPass : Nat → Text → List Text → Text × List Text × Bool
  | 0, _, args => ([], args, true)
  | _, [], args => ([], args, true)
  | n + 1, '%' :: '%' :: r, args =>
    let x := formatPass n r args
    ('%' :: x.1, x.2)
  | n + 1, '%' :: r, args =>
    let (f, r) := formatOf r
    match r with
    | [] => (['%'], args, true)
    | c :: r =>
      match conversion f c (args.headD []) with
      | none => ([], [], false)
      | some t =>
        let x := formatPass n r args.tail
        (t ++ x.1, x.2)
  | n + 1, '\\' :: c :: r, args =>
    if c == 'c' then ([], [], false)
    else if isOctal c then
      let o := octal 3 (c :: r)
      let x := formatPass n o.2 args
      (byte o.1 :: x.1, x.2)
    else
      let x := formatPass n r args
      (match escapeChar c with
        | some d => d :: x.1
        | none => '\\' :: c :: x.1, x.2)
  | n + 1, c :: r, args =>
    let x := formatPass n r args
    (c :: x.1, x.2)

/-- The text of a format, which is used again while there are arguments left. -/
def format : Nat → Text → List Text → Text
  | 0, _, _ => []
  | n + 1, f, args =>
    let (t, left, goOn) := formatPass f.length f args
    if goOn && !left.isEmpty && left.length < args.length then t ++ format n f left else t

/-! ### Searching -/

inductive Atom where
  | any
  | char (c : Char)
  | oneOf (negated : Bool) (ranges : List (Char × Char))
  deriving DecidableEq, Repr

/-- A piece of an expression: an atom that comes a number of times, or an end of the line. -/
inductive Piece where
  | times (a : Atom) (least : Nat) (most : Option Nat)
  | lineStart
  | lineEnd
  deriving DecidableEq, Repr

def Atom.fits : Atom → Char → Bool
  | any, _ => true
  | char a, c => a == c
  | oneOf neg rs, c => rs.any (fun r => r.1 ≤ c && c ≤ r.2) != neg

def repeated (a : Atom) (extended : Bool) : Text → Piece × Text
  | '*' :: r => (.times a 0 none, r)
  | '+' :: r => if extended then (.times a 1 none, r) else (.times a 1 (some 1), '+' :: r)
  | '?' :: r => if extended then (.times a 0 (some 1), r) else (.times a 1 (some 1), '?' :: r)
  | '\\' :: '+' :: r => if extended then (.times a 1 (some 1), '\\' :: '+' :: r)
    else (.times a 1 none, r)
  | r => (.times a 1 (some 1), r)

def expression (extended first : Bool) : Nat → Text → List Piece
  | 0, _ | _, [] => []
  | n + 1, '^' :: r =>
    if first || extended then .lineStart :: expression extended false n r
    else .times (.char '^') 1 (some 1) :: expression extended false n r
  | _ + 1, ['$'] => [.lineEnd]
  | n + 1, c :: r =>
    let (a, r) : Atom × Text := match c, r with
      | '.', r => (.any, r)
      | '\\', d :: r => (.char d, r)
      | '[', r =>
        let (neg, s) := match r with
          | '^' :: r => (true, r)
          | r => (false, r)
        match Shell.Glob.ranges true (s.map (·, true)) with
        | some (rs, s) => (.oneOf neg rs, s.map (·.1))
        | none => (.char '[', r)
      | c, r => (.char c, r)
    let (p, r) := repeated a extended r
    p :: expression extended false n r

/-- Whether an expression fits the beginning of a text. -/
def fitsHere (start : Bool) : Nat → List Piece → Text → Option Text
  | 0, _, _ => none
  | _, [], t => some t
  | n + 1, .lineStart :: ps, t => if start then fitsHere start n ps t else none
  | n + 1, .lineEnd :: ps, t => if t.isEmpty then fitsHere start n ps t else none
  | n + 1, .times a least most :: ps, t =>
    let run := (match most with
      | some m => t.take m
      | none => t).takeWhile a.fits
    ((List.range (run.length + 1)).reverse.filter (least ≤ ·)).findSome? fun k =>
      fitsHere (start && k == 0) n ps (t.drop k)

def found (whole : Bool) (ps : List Piece) (line : Text) : Bool :=
  (if whole then [0] else List.range (line.length + 1)).any fun k =>
    match fitsHere (k == 0) (ps.length + 1) ps (line.drop k) with
    | none => false
    | some rest => !whole || rest.isEmpty

end ExampleSuite.Machine.Text
