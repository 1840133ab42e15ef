import ExampleSuite.Machine.Exec

/-!
The commands that a shell does itself.
-/

namespace ExampleSuite.Machine.Builtin

open Shell (Text Scope)
open Op (proc machine onProc)

/-- Commands whose failures end the shell. -/
def special : List String :=
  [":", ".", "break", "continue", "eval", "exec", "exit", "export", "local", "readonly", "return",
    "set", "shift", "times", "trap", "unset"]

def ordinary : List String :=
  ["true", "false", "echo", "printf", "test", "[", "pwd", "cd", "read", "kill", "ulimit", "umask",
    "wait", "command", "type", "hash", "jobs", "alias", "unalias"]

def is_ (name : Text) : Bool :=
  special.contains (String.ofList name) || ordinary.contains (String.ofList name)

/-- How a shell begins a complaint. -/
def complaint (s : ShellState) (what : Text) : Text :=
  s.scope.name ++ ": ".toList ++ Text.decimal s.line ++ ": ".toList ++ what ++ ['\n']

def complain (s : ShellState) (what : Text) : Op Unit := do
  let _ ← Op.write 2 (ofText (complaint s what))

def setVar (s : ShellState) (name value : Text) : ShellState :=
  { s with scope := { s.scope with
    vars := (name, value) :: s.scope.vars.filter (·.1 != name) } }

def unsetVar (s : ShellState) (name : Text) : ShellState :=
  { s with scope := { s.scope with vars := s.scope.vars.filter (·.1 != name) } }

def withStatus (s : ShellState) (n : Nat) : ShellState :=
  { s with scope := { s.scope with status := n } }

def withParams (s : ShellState) (ps : List Text) : ShellState :=
  { s with scope := { s.scope with params := ps } }

/-- A name and the value behind its equals sign. -/
def split (a : Text) : Text × Option Text :=
  let n := a.takeWhile (· != '=')
  (n, if n.length < a.length then some (a.drop (n.length + 1)) else none)

def assignAll (s : ShellState) (args : List Text) : ShellState :=
  args.foldl (fun s a => match split a with
    | (n, some v) => setVar s n v
    | _ => s) s

def exportAll (s : ShellState) (args : List Text) : ShellState :=
  { assignAll s args with
    exported := args.foldl (fun l a => addNew l [(split a).1]) s.exported }

/-- What other programs get to know of the variables. -/
def environment (s : ShellState) : List (Text × Text) :=
  s.exported.reverse.filterMap fun n => (s.scope.vars.lookup n).map (n, ·)

def changeDir (s : ShellState) (args : List Text) : Op (ShellState × Nat) := do
  let target := args.headD ((s.scope.vars.lookup "HOME".toList).getD [])
  if target.isEmpty then return (s, 0)
  match (← machine).disk.spot (← proc).cwd true (ofText target) with
  | .ok (q, some .dir) =>
    onProc fun p => { p with cwd := q }
    return (setVar s "PWD".toList (← Tool.workingDir), 0)
  | _ =>
    complain s ("cd: can't cd to ".toList ++ target)
    return (s, 2)

/-- Spreads the fields of a line over variables, the last of which takes what is left. -/
def spread (seps : Text) : ShellState → List Text → Text → ShellState
  | s, [], _ => s
  | s, [n], t => setVar s n ((t.reverse.dropWhile seps.contains).reverse)
  | s, n :: ns, t =>
    let f := t.takeWhile fun c => !seps.contains c
    spread seps (setVar s n f) ns ((t.drop f.length).dropWhile seps.contains)

def read (s : ShellState) (args : List Text) : Op (ShellState × Nat) := do
  let names := Tool.operands ['p'] args
  let (line, ended) ← Op.readLine 0
  let seps := Shell.Expand.ifs s.scope
  return (spread seps s names (line.dropWhile seps.contains), if ended then 0 else 1)

def flagNames : List (String × Char) :=
  [("errexit", 'e'), ("noglob", 'f'), ("ignoreeof", 'I'), ("interactive", 'i'), ("monitor", 'm'),
    ("noexec", 'n'), ("stdin", 's'), ("xtrace", 'x'), ("verbose", 'v'), ("vi", 'V'), ("emacs", 'E'),
    ("noclobber", 'C'), ("allexport", 'a'), ("notify", 'b'), ("nounset", 'u'), ("nolog", 'l')]

def setFlags (on : Bool) (fs : Text) (s : ShellState) : ShellState :=
  let now := s.scope.flags
  { s with scope := { s.scope with
    flags := if on then addNew now fs else now.filter fun c => !fs.contains c } }

/-- Sets or clears flags of the shell, or its parameters. A flag that there is not is an error. -/
def set : ShellState → List Text → Except Text ShellState
  | s, [] => .ok s
  | s, a :: r =>
    let on := a.head? == some '-'
    if a = "--".toList then .ok (withParams s r)
    else if a = ['-', 'o'] ∨ a = ['+', 'o'] then
      match r with
      | [] => .ok s
      | n :: r =>
        match flagNames.lookup (String.ofList n) with
        | some c => set (setFlags on [c] s) r
        | none => .error ("-o ".toList ++ n)
    else if on ∨ a.head? == some '+' then
      match a.tail.find? fun c => !(flagNames.any (·.2 == c)) with
      | some c => .error ['-', c]
      | none => set (setFlags on a.tail s) r
    else .ok (withParams s (a :: r))

/-- Notes variables whose values come back at the end of the call in progress. -/
def noteLocal (vars : List (Text × Option Text)) : List Task → Option (List Task)
  | [] => none
  | .endCall ps old :: ts => some (.endCall ps (old ++ vars) :: ts)
  | t :: ts => (noteLocal vars ts).map (t :: ·)

def localise (s : ShellState) (args : List Text) : Option ShellState :=
  (noteLocal (args.map fun a => ((split a).1, s.scope.vars.lookup (split a).1)) s.work).map
    fun work => assignAll { s with work := work } args

def trapOn (s : ShellState) (action : Option Text) (sig : Nat) : Op ShellState := do
  let rest := s.traps.filter (·.1 != sig)
  match action with
  | none =>
    onProc fun p => { p with ignored := p.ignored.filter (· != sig) }
    return { s with traps := rest }
  | some [] =>
    onProc fun p => { p with ignored := sig :: p.ignored.filter (· != sig) }
    return { s with traps := rest }
  | some cmd =>
    onProc fun p => { p with ignored := p.ignored.filter (· != sig) }
    return { s with traps := (sig, cmd) :: rest }

def trapAll (action : Option Text) : List Text → ShellState → Op (ShellState × Nat)
  | [], s => return (s, 0)
  | a :: r, s => do
    match Signal.ofText (String.ofList a) with
    | none =>
      let _ ← Op.write 2 (ofText ("trap: ".toList ++ a ++ ": bad trap\n".toList))
      return (s, 1)
    | some sig => trapAll action r (← trapOn s action sig)

/-- A text between quotes that a shell reads back. -/
def quoted (t : Text) : Text :=
  ['\''] ++ t.flatMap (fun c => if c == '\'' then "'\"'\"'".toList else [c]) ++ ['\'']

/-- The commands that show which signals are caught or ignored. -/
def trapLines (s : ShellState) (p : Process) : List Text :=
  ("EXIT" :: Signal.listing.tail).zipIdx.filterMap fun (name, n) =>
    let action := if p.ignored.contains n then some [] else s.traps.lookup n
    action.map fun a => "trap -- ".toList ++ quoted a ++ ' ' :: name.toList

def trap (s : ShellState) (args : List Text) : Op (ShellState × Nat) :=
  match if args.head? == some "--".toList then args.tail else args with
  | [] => do
    let _ ← Op.write 1 (ofText (Text.unlines (trapLines s (← proc))))
    return (s, 0)
  | ['-'] :: sigs => trapAll none sigs s
  | a :: sigs =>
    if sigs.isEmpty || (Text.number? a).isSome then trapAll none (a :: sigs) s
    else trapAll (some a) sigs s

def killAll (s : ShellState) (sig : Nat) : List Text → Op Nat
  | [] => return 0
  | a :: r => do
    let n ← killAll s sig r
    match if a.head? == some '%' then s.scope.lastJob else Text.number? a with
    | none =>
      complain s ("kill: Illegal number: ".toList ++ a)
      return 2
    | some pid =>
      if ← Op.signal pid sig then return n
      else
        complain s "kill: No such process\n".toList
        return max n 1

def kill (s : ShellState) (args : List Text) : Op Nat := do
  let bad (what : Text) : Op Nat := do
    complain s ("kill: ".toList ++ what)
    return 2
  let send (sig : Nat) (pids : List Text) : Op Nat :=
    if pids.isEmpty then
      bad ("Usage: kill [-s sigspec | -signum | -sigspec] [pid | job]... or\n" ++
        "kill -l [exitstatus]").toList
    else killAll s sig pids
  match args with
  | ['-', 'l'] :: a :: _ =>
    match (Text.number? a).bind fun n => Signal.listing[n % 128]? with
    | some name =>
      let _ ← Op.write 1 (ofText (name.toList ++ ['\n']))
      return 0
    | none => bad ("Illegal number: ".toList ++ a)
  | ['-', 'l'] :: _ =>
    let _ ← Op.write 1 (ofText (Text.unlines (Signal.listing.map String.toList)))
    return 0
  | ['-', 's'] :: a :: r =>
    match Signal.ofText (String.ofList a) with
    | some sig => send sig r
    | none => bad ("invalid signal number or name: ".toList ++ a)
  | ('-' :: a) :: r =>
    if a = ['-'] then send 15 r
    else match Signal.ofText (String.ofList a) with
      | some sig => send sig r
      | none => bad ("Illegal option -".toList ++ a.take 1)
  | r => send 15 r

/-- Prints what a builtin has to say and gives its status. -/
def print (s : ShellState) (r : Tool.Result) (name : String) : Op (ShellState × Nat) := do
  if !r.err.isEmpty then complain s r.err.dropLast
  if r.out.isEmpty then return (s, r.status)
  else
    match ← Op.write 1 (ofText r.out) with
    | .ok () => return (s, r.status)
    | .error _ =>
      complain s (name ++ ": " ++ name ++ ": I/O error").toList
      return (s, 1)

def whichOf (s : ShellState) (name : Text) : Op Tool.Result := do
  if is_ name || (s.funcs.lookup name).isSome then return .ok (name ++ ['\n'])
  else
    let p ← proc
    let m ← machine
    let dirs := if name.contains '/' then [[]] else Exec.pathOf s.scope.vars
    match dirs.find? fun d =>
        match Exec.load m.disk p.cwd Exec.maxScripts (Tool.below d name) [name] with
        | .ok _ => true
        | .error _ => false with
    | some d => return .ok (Tool.below d name ++ ['\n'])
    | none => return ⟨[], [], 127⟩

/-- Tells of each name what it stands for. -/
def kindsOf (s : ShellState) : List Text → Op Tool.Result
  | [] => return .ok []
  | a :: r => do
    let w ← whichOf s a
    let kind :=
      if (s.funcs.lookup a).isSome then " is a shell function\n"
      else if special.contains (String.ofList a) then " is a special shell builtin\n"
      else if is_ a then " is a shell builtin\n"
      else if w.status == 0 then " is " ++ String.ofList w.out
      else ": not found\n"
    return Tool.Result.append ⟨a ++ kind.toList, [], w.status⟩ (← kindsOf s r)

/-- Runs a builtin that only changes the shell, the process or the machine. -/
def run (s : ShellState) (name : String) (args : List Text) : Op (ShellState × Nat) := do
  match name with
  | "false" => return (s, 1)
  | "echo" => print s (.ok (Text.echo args)) name
  | "printf" =>
    if args.isEmpty then
      complain s "printf: usage: printf format [arg ...]".toList
      return (s, 2)
    else print s (.ok (Text.format (args.length + 1) (args.headD []) args.tail)) name
  | "test" => print s (← Tool.test "test" args) name
  | "[" =>
    if args.getLast? = some [']'] then print s (← Tool.test "[" args.dropLast) name
    else
      complain s "[: missing ]".toList
      return (s, 2)
  | "pwd" => print s (.ok ((← Tool.workingDir) ++ ['\n'])) name
  | "cd" => changeDir s args
  | "export" => return (exportAll s args, 0)
  | "readonly" =>
    return ({ assignAll s args with fixed := addNew s.fixed (args.map fun a => (split a).1) }, 0)
  | "local" =>
    match localise s args with
    | some s => return (s, 0)
    | none =>
      complain s "local: not in a function".toList
      return (s, 2)
  | "unset" =>
    let names := Tool.operands [] args
    match names.find? s.fixed.contains with
    | some n =>
      complain s ("unset: ".toList ++ n ++ ": is read only".toList)
      return (s, 2)
    | none =>
      let s := names.foldl unsetVar s
      return ({ s with funcs := s.funcs.filter fun f => !names.contains f.1 }, 0)
  | "set" =>
    match set s args with
    | .ok s => return (s, 0)
    | .error a =>
      complain s ("set: Illegal option ".toList ++ a)
      return (s, 2)
  | "shift" =>
    let n := ((args.head?).bind Text.number?).getD 1
    if s.scope.params.length < n then
      complain s "shift: can't shift that many".toList
      return (s, 2)
    else return (withParams s (s.scope.params.drop n), 0)
  | "read" => read s args
  | "kill" => return (s, ← kill s args)
  | "trap" => trap s args
  | "umask" => if args.isEmpty then print s (.ok "0022\n".toList) name else return (s, 0)
  | "ulimit" =>
    if args.any (fun a => !(a.head? == some '-')) then return (s, 0)
    else print s (.ok "unlimited\n".toList) name
  | "times" => print s (.ok "0m0.000000s 0m0.000000s\n0m0.000000s 0m0.000000s\n".toList) name
  | "command" => print s (← whichOf s (args.getLastD [])) name
  | "type" => print s (← kindsOf s args) name
  | _ => return (s, 0)

end ExampleSuite.Machine.Builtin
