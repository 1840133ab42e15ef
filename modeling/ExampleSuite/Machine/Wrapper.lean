import ExampleSuite.Machine.Tool

/-!
Tools that run another program.

Such a tool changes something of its process and then becomes the program that its arguments
name. One of them sets the variables of the program, and has flags of its own for that.
-/

namespace ExampleSuite.Machine.Wrapper

open Shell (Text)

/-- What the arguments of a tool ask for. -/
inductive Request where
  /-- A program on some arguments, or nothing if there are none, in a changed process. -/
  | run (change : Process → Process) (args : List Text)
  /-- The arguments are wrong. -/
  | refuse (why : Text) (status : Nat)

/-! ### Variables -/

abbrev Vars := List (Text × Text)

/-- Gives a variable a value. A new one comes last. -/
def setVar (vs : Vars) (name value : Text) : Vars :=
  if (vs.lookup name).isSome then vs.map fun v => if v.1 == name then (name, value) else v
  else vs ++ [(name, value)]

/-- Takes an assignment over into the variables. -/
def assign (vs : Vars) (a : Text) : Vars :=
  let name := a.takeWhile (· != '=')
  setVar vs name (a.drop (name.length + 1))

/-- What is asked of the variables of a program. -/
structure Change where
  clear : Bool
  unset : List Text

def Change.apply (c : Change) (sets : List Text) (vs : Vars) : Vars :=
  sets.foldl assign (if c.clear then [] else vs.filter fun v => !c.unset.contains v.1)

/-! ### Flags -/

def isBlank (c : Char) : Bool := c == ' ' || ('\t' ≤ c && c ≤ '\r')

/-- The words of a text, up to the quotation mark that is open if there is one. -/
def wordsFrom (quote : Option Char) (word : Option Text) : Text → List Text
  | [] => word.toList
  | c :: r =>
    match quote with
    | some q =>
      if c == q then wordsFrom none word r else wordsFrom quote (some (word.getD [] ++ [c])) r
    | none =>
      if c == '\'' || c == '"' then wordsFrom (some c) (some (word.getD [])) r
      else if isBlank c then word.toList ++ wordsFrom none none r
      else wordsFrom none (some (word.getD [] ++ [c])) r

def words (t : Text) : List Text := wordsFrom none none t

def hint (self : Text) : Text :=
  "Try '".toList ++ self ++ " --help' for more information.\n".toList

/-- The hint for those who gave several flags where a script allows only one argument. -/
def splitHint (self : Text) : Text :=
  self ++ ": use -[v]S to pass options in shebang lines\n".toList

def unknownLetter (self : Text) (c : Char) : Text :=
  self ++ ": invalid option -- '".toList ++ c :: "'\n".toList ++
    (if isBlank c then splitHint self else []) ++ hint self

def missing (self : Text) (c : Char) : Text :=
  self ++ ": option requires an argument -- '".toList ++ c :: "'\n".toList ++ hint self

def unknownName (self name : Text) : Text :=
  self ++ ": unrecognized option '".toList ++ name ++ "'\n".toList ++ hint self

/-- Reads the letters of an argument. What some of them need may stand in the next argument. -/
def letters (self : Text) : Change → Text → List Text → Except Text (Change × List Text)
  | c, [], r => .ok (c, r)
  | c, l :: t, r =>
    match l, t, r with
    | 'i', t, r => letters self { c with clear := true } t r
    | '0', t, r | 'v', t, r => letters self c t r
    | 'u', [], n :: r => .ok ({ c with unset := n :: c.unset }, r)
    | 'S', [], a :: r => .ok (c, words a ++ r)
    | 'u', [], [] | 'S', [], [] => .error (missing self l)
    | 'u', n, r => .ok ({ c with unset := n :: c.unset }, r)
    | 'S', a, r => .ok (c, words a ++ r)
    | l, _, _ => .error (unknownLetter self l)

/-- Reads a flag with a long name. -/
def long (self : Text) (c : Change) (a : Text) (r : List Text) :
    Except Text (Change × List Text) :=
  let name := a.takeWhile (· != '=')
  let value := a.drop (name.length + 1)
  match String.ofList name, a.contains '=', r with
  | "--ignore-environment", false, r => .ok ({ c with clear := true }, r)
  | "--null", false, r | "--debug", false, r => .ok (c, r)
  | "--unset", true, r => .ok ({ c with unset := value :: c.unset }, r)
  | "--unset", false, n :: r => .ok ({ c with unset := n :: c.unset }, r)
  | "--split-string", true, r => .ok (c, words value ++ r)
  | _, _, _ => .error (unknownName self a)

/-- Reads the flags in front. A flag may bring new arguments, but not more than it has
characters. -/
def changes (self : Text) : Nat → Change → List Text → Except Text (Change × List Text)
  | n + 1, c, a :: r =>
    match a with
    | ['-'] => .ok ({ c with clear := true }, r)
    | ['-', '-'] => .ok (c, r)
    | '-' :: '-' :: _ => (long self c a r).bind fun (c, r) => changes self n c r
    | '-' :: t => (letters self c t r).bind fun (c, r) => changes self n c r
    | _ => .ok (c, a :: r)
  | _, c, r => .ok (c, r)

/-- A program with the variables that the arguments say. -/
def environment (self : Text) (args : List Text) : Request :=
  match changes self ((args.map List.length).foldr (· + ·) args.length) ⟨false, []⟩ args with
  | .error why => .refuse why 125
  | .ok (c, r) =>
    let sets := r.takeWhile fun a => a.contains '='
    .run (fun p => { p with env := c.apply sets p.env }) (r.drop sets.length)

/-! ### All of them -/

/-- What is asked of a tool, if it is one that runs another program. -/
def request? (tool : String) (self : Text) (args : List Text) : Option Request :=
  match tool with
  | "nohup" =>
    if args.isEmpty then none else some (.run (fun p => { p with ignored := 1 :: p.ignored }) args)
  | "nice" => some (.run id (Tool.operands ['n'] args))
  | "setsid" => some (.run id (Tool.operands [] args))
  | "env" => some (environment self args)
  | _ => none

/-- How a tool tells that a program cannot be run. -/
def notRun (tool : String) (self name : Text) (e : Errno) : Text :=
  let what :=
    match tool with
    | "nohup" => "failed to run command ".toList ++ Tool.curly name
    | "setsid" => "failed to execute ".toList ++ name
    | _ => Tool.curly name
  self ++ ": ".toList ++ what ++ ": ".toList ++ e.text.toList ++ '\n' ::
    if tool == "env" && e == .noEntry && name.any isBlank then splitHint self else []

end ExampleSuite.Machine.Wrapper
