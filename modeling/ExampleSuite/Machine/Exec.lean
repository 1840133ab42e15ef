import ExampleSuite.Machine.Wrapper

/-!
Turning a process into another program.

A file can be run if it may be executed and is a tool or names the program that reads it in
its first line. A name without a slash is looked for among the tools.
-/

namespace ExampleSuite.Machine.Exec

open Shell (Text)
open Op (proc machine onProc)

/-- A tool and the arguments that it is run with, its own name first. -/
structure Image where
  tool : String
  args : List Text

def blank (c : Char) : Bool := c == ' ' || c == '\t'

def trimEnd (t : Text) : Text := (t.reverse.dropWhile blank).reverse

/-- How much of a file is looked at for the program that reads it. -/
def headSize : Nat := 256

/-- The start of a file, with zeros behind its end. -/
def head (t : Text) : Text := (t ++ List.replicate (headSize - t.length) '\x00').take headSize

/-- Whether a character ends the name of a program. -/
def endsName (c : Char) : Bool := blank c || c == '\x00'

/-- The line that a script starts with. Without a newline in sight it has to be clear where the
name of the program ends. -/
def firstLine? (body : Text) : Option Text :=
  if body.contains '\n' then some (trimEnd (body.takeWhile (· != '\n')))
  else if (body.dropWhile blank).any endsName then some (trimEnd body.dropLast)
  else none

/-- The program and the argument that the first line of a script names. -/
def scriptLine (t : Text) : Option (Text × List Text) :=
  match head t with
  | '#' :: '!' :: body =>
    match (firstLine? body).map (List.dropWhile blank) with
    | none | some [] => none
    | some line =>
      let prog := line.takeWhile fun c => !endsName c
      match line.drop prog.length with
      | [] | '\x00' :: _ => some (prog, [])
      | rest => some (prog, [(rest.dropWhile blank).takeWhile (· != '\x00')])
  | _ => none

/-- What a file is run as. The number bounds how often a script may name a script. -/
def load (d : Disk) (cwd : Place) : Nat → Text → List Text → Except Errno Image
  | n, path, args =>
    match d.tree.find cwd true (ofText path) with
    | .error e => .error e
    | .ok (_, .file id) =>
      let f := d.file id
      if !f.executable then .error .denied
      else
        match f.tool with
        | some t => .ok ⟨t, args⟩
        | none =>
          match n, scriptLine (toText f.content) with
          | _, none => .error .noExec
          | 0, _ => .error .loop
          | n + 1, some (prog, arg) => load d cwd n prog (prog :: arg ++ path :: args.tail)
    | .ok _ => .error .denied

/-- How often a script may name a script. -/
def maxScripts : Nat := 5

def searchPath : List Text := ["/usr/bin", "/bin"].map String.toList

/-- What a file is run as where a file that is no program is taken for a script of the shell. -/
def loadScript (d : Disk) (cwd : Place) (path : Text) (args : List Text) : Except Errno Image :=
  match load d cwd maxScripts path args with
  | .error .noExec => .ok ⟨"sh", "/bin/sh".toList :: path :: args.tail⟩
  | r => r

/-- The first file of a name on the search path that can be run. -/
def search (loader : Text → List Text → Except Errno Image) (dirs : List Text) (name : Text)
    (args : List Text) : Except Errno Image :=
  if name.isEmpty then .error .noEntry
  else if name.contains '/' then loader name args
  else if Tree.nameMax < name.length then .error .tooLong
  else
    let tries := dirs.map fun dir => loader (Tool.below dir name) args
    match tries.find? fun r => match r with
      | .ok _ => true
      | .error e => !(e == .noEntry || e == .notDir || e == .denied) with
    | some r => r
    | none =>
      if tries.any (fun r => match r with
        | .error e => e == .denied
        | .ok _ => false) then .error .denied
      else .error .noEntry

/-- The directories that are searched, if there is a variable for them. -/
def pathOf? (env : List (Text × Text)) : Option (List Text) :=
  (env.lookup "PATH".toList).map fun t => t.splitOn ':'

def pathOf (env : List (Text × Text)) : List Text := (pathOf? env).getD []

/-! ### Shells -/

/-- How a shell is asked to run. -/
structure Call where
  command : Bool
  flags : Text
  rest : List Text

/-- Reads the flags of a shell. -/
def shellFlags : Call → List Text → Except Text Call
  | c, a :: r =>
    if a = "--".toList then .ok { c with rest := r }
    else if a.length > 1 && a.head? == some '-' then
      match a.tail.find? fun l => !("ceuxsfmnvabiEV".toList.contains l) with
      | some l => .error [l]
      | none =>
        shellFlags { c with
          command := c.command || a.tail.contains 'c'
          flags := addNew c.flags (a.tail.filter (· != 'c')) } r
    else .ok { c with rest := a :: r }
  | c, [] => .ok { c with rest := [] }

/-- Where a shell searches if no variable says it. -/
def shellPath : Text :=
  "/usr/local/sbin:/usr/local/bin:/usr/sbin:/usr/bin:/sbin:/bin".toList

/-- The variables that a shell starts with. -/
def shellVars (p : Process) : List (Text × Text) :=
  (if (pathOf? p.env).isNone then [("PATH".toList, shellPath)] else []) ++
  ("PPID".toList, Text.decimal p.parent) :: ("IFS".toList, " \t\n".toList) ::
    ("PWD".toList, Tool.placeText p.cwd) :: p.env

def shellState (p : Process) (name source : Text) (params : List Text) (flags : Text) :
    ShellState where
  scope := ⟨shellVars p, params, name, 0, p.pid, none, flags⟩
  exported := p.env.map (·.1)
  source := source
  script := .done
  line := 1
  work := []
  funcs := []
  traps := []
  fixed := []
  passing := false

/-- A shell that reads a script from a file. -/
def scriptState (d : Disk) (id : Nat) (p : Process) (path : Text) (params : List Text)
    (flags : Text) : ShellState :=
  let source := toText (d.content id)
  { shellState p path source params flags with script := .file id source.length }

def say (err : Text) (status : Nat) : Program := .tool (.say [] err status)

/-- How a shell tells that it cannot open a file. -/
def openError (e : Errno) : String := if e == .noEntry then "No such file" else e.text

/-- The program of a shell. -/
def shell (args : List Text) : Op Program := do
  let p ← proc
  let self := args.headD []
  match shellFlags ⟨false, [], []⟩ args.tail with
  | .error l => return say (self ++ ": 0: Illegal option -".toList ++ l ++ ['\n']) 2
  | .ok c =>
    match c.command, c.rest with
    | true, [] => return say (self ++ ": 0: -c requires an argument\n".toList) 2
    | true, cmd :: r =>
      return .shell { shellState p (r.headD self) cmd r.tail c.flags with passing := true }
    | false, path :: r =>
      if c.flags.contains 's' then
        return .shell { shellState p self [] (path :: r) c.flags with script := .input }
      else
      match ← Op.openPath .read path with
      | .error e =>
        return say (self ++ ": 0: cannot open ".toList ++ path ++ ": ".toList ++
          (openError e).toList ++ ['\n']) 2
      | .ok (.file id _ _) =>
        return .shell (scriptState (← machine).disk id p path r c.flags)
      | .ok _ => return .shell (shellState p path [] r c.flags)
    | false, [] =>
      return .shell { shellState p self [] [] c.flags with script := .input }

/-- Has a process run an image. -/
def run : Nat → Image → Op Unit
  | 0, _ => Op.finish (.code 126)
  | n + 1, img => do
    onProc fun p => { p with caught := [] }
    let self := img.args.headD []
    let isShell := img.tool == "sh" || img.tool == "dash"
    match Wrapper.request? img.tool self img.args.tail with
    | some (.refuse why status) => onProc fun p => { p with program := say why status }
    | some (.run change (name :: args)) =>
      onProc change
      let p ← proc
      let d := (← machine).disk
      match search (loadScript d p.cwd) ((pathOf? p.env).getD searchPath) name (name :: args) with
      | .ok img => run n img
      | .error e =>
        let why := Wrapper.notRun img.tool self name e
        onProc fun p => { p with program := say why (if e == .noEntry then 127 else 126) }
    | some (.run change []) =>
      onProc change
      let t ← Tool.launch [img.tool.toList]
      onProc fun p => { p with program := .tool t }
    | none =>
      let prog ← if isShell then shell img.args
        else Program.tool <$> Tool.launch (img.tool.toList :: img.args.tail)
      onProc fun p => { p with program := prog }

/-- How deep tools may run one another. -/
def maxWrappers : Nat := 8

end ExampleSuite.Machine.Exec
