import ExampleSuite.Shell.Syntax

/-!
Arithmetic in the shell: sums, comparisons and assignments over whole numbers of 64 bits.
-/

namespace ExampleSuite.Shell.Sum

/-- A sum in progress: what is left to read, and the variables. -/
structure State where
  rest : Text
  vars : List (Text × Text)

abbrev Eval (α : Type) := StateT State Option α

def wrap (n : Int) : Int := n.bmod 0x10000000000000000

def digitOf (c : Char) : Nat :=
  if c.isDigit then c.toNat - 48
  else if c.isLower then c.toNat - 87
  else if c.isUpper then c.toNat - 55
  else 99

def inBase (b : Nat) (ds : Text) : Option Nat :=
  ds.foldlM (fun n c => if digitOf c < b then some (n * b + digitOf c) else none) 0

/-- A number, in the base that its beginning tells. There is none without figures. -/
def constant? : Text → Option Nat
  | [] => none
  | '0' :: 'x' :: ds | '0' :: 'X' :: ds => inBase 16 ds
  | '0' :: ds => inBase 8 ds
  | ds => inBase 10 ds

def signed? (t : Text) : Option Int :=
  match t.dropWhile (fun c => c == ' ' || c == '\n' || c == '\t') with
  | [] => some 0
  | '-' :: ds => (constant? ds).map fun n => -n
  | '+' :: ds => (constant? ds).map fun n => n
  | ds => (constant? ds).map fun n => n

def lookup (name : Text) : Eval Int := do
  match (← get).vars.lookup name with
  | none => return 0
  | some v => (signed? v : Option Int)

def assign (name : Text) (v : Int) : Eval Int := do
  modify fun s =>
    { s with vars := (name, (toString v).toList) :: s.vars.filter (·.1 != name) }
  return v

def blank : Eval Unit :=
  modify fun s => { s with rest := s.rest.dropWhile fun c => c == ' ' || c == '\n' || c == '\t' }

/-- Takes an operator if it comes next. -/
def accept (op : String) : Eval Bool := do
  blank
  let s ← get
  if op.toList.isPrefixOf s.rest then
    set { s with rest := s.rest.drop op.length }
    return true
  else return false

def ofBool (b : Bool) : Int := if b then 1 else 0

/-- The two-sided operators and how tightly they bind. -/
def operators : List (String × Nat) :=
  [("||", 1), ("&&", 2), ("==", 6), ("!=", 6), ("<<", 8), (">>", 8), ("<=", 7), (">=", 7),
    ("|", 3), ("^", 4), ("&", 5), ("<", 7), (">", 7), ("+", 9), ("-", 9), ("*", 10), ("/", 10),
    ("%", 10)]

def apply (op : String) (a b : Int) : Option Int :=
  match op with
  | "||" => some (ofBool (a != 0 || b != 0))
  | "&&" => some (ofBool (a != 0 && b != 0))
  | "|" => some (Int64.ofInt a ||| Int64.ofInt b).toInt
  | "^" => some (Int64.ofInt a ^^^ Int64.ofInt b).toInt
  | "&" => some (Int64.ofInt a &&& Int64.ofInt b).toInt
  | "==" => some (ofBool (a == b))
  | "!=" => some (ofBool (a != b))
  | "<=" => some (ofBool (a ≤ b))
  | ">=" => some (ofBool (a ≥ b))
  | "<" => some (ofBool (a < b))
  | ">" => some (ofBool (a > b))
  | "<<" => some (Int64.ofInt a <<< Int64.ofInt b).toInt
  | ">>" => some (Int64.ofInt a >>> Int64.ofInt b).toInt
  | "+" => some (wrap (a + b))
  | "-" => some (wrap (a - b))
  | "*" => some (wrap (a * b))
  | "/" => if b = 0 then none else some (wrap (a.tdiv b))
  | "%" => if b = 0 then none else some (wrap (a.tmod b))
  | _ => none

/-- The operator that comes next, if it binds tightly enough. It is no assignment. -/
def nextOp (least : Nat) : Eval (Option (String × Nat)) := do
  blank
  let t := (← get).rest
  return operators.find? fun o =>
    o.1.toList.isPrefixOf t && least ≤ o.2 &&
      ((t.drop o.1.length).head? != some '=' || ["==", "!=", "<=", ">="].contains o.1)

def takeName : Eval Text := do
  let s ← get
  let name := s.rest.takeWhile isNameChar
  set { s with rest := s.rest.drop name.length }
  return name

mutual

def whole : Nat → Eval Int
  | 0 => failure
  | n + 1 => do
    let c ← binary n 1
    if ← accept "?" then
      let a ← whole n
      if ← accept ":" then
        let b ← whole n
        return if c != 0 then a else b
      else failure
    else return c

def binary : Nat → Nat → Eval Int
  | 0, _ => failure
  | n + 1, least => do
    let a ← unary n
    binaryRest n least a

def binaryRest : Nat → Nat → Int → Eval Int
  | 0, _, _ => failure
  | n + 1, least, a => do
    match ← nextOp least with
    | none => return a
    | some (op, p) =>
      let _ ← accept op
      let b ← binary n (p + 1)
      binaryRest n least (← (apply op a b : Option Int))

def unary : Nat → Eval Int
  | 0 => failure
  | n + 1 => do
    if ← accept "(" then
      let a ← whole n
      if ← accept ")" then return a else failure
    else if ← accept "-" then return wrap (-(← unary n))
    else if ← accept "+" then unary n
    else if ← accept "~" then return -(← unary n) - 1
    else if ← accept "!" then return ofBool ((← unary n) == 0)
    else
      let name ← takeName
      if isName name then
        blank
        let rest := (← get).rest
        match rest with
        | '=' :: c :: r =>
          if c == '=' then lookup name
          else do
            modify fun s => { s with rest := c :: r }
            assign name (← whole n)
        | _ =>
          match ["+=", "-=", "*=", "/=", "%="].find?
              (fun o => o.toList.isPrefixOf rest) with
          | none => lookup name
          | some o =>
            let _ ← accept o
            let a ← lookup name
            let b ← whole n
            assign name (← (apply (String.ofList (o.toList.take 1)) a b : Option Int))
      else (constant? name).elim failure fun n => return wrap n

end

/-- The value of a sum, and the variables after it. -/
def eval (vars : List (Text × Text)) (t : Text) : Option (Int × List (Text × Text)) :=
  if t.all (fun c => c == ' ' || c == '\n' || c == '\t') then some (0, vars)
  else
    match (do let v ← whole (4 * t.length + 8); blank; return v).run ⟨t, vars⟩ with
    | some (v, s) => if s.rest.isEmpty then some (v, s.vars) else none
    | none => none

end ExampleSuite.Shell.Sum
