import ExampleSuite.Execution
import ExampleSuite.Machine.Base
import ExampleSuite.Machine.Signal
import ExampleSuite.Shell.Expand

/-!
The state of the machine: processes, what they have open, and the child that is watched.

Each process has a clock of its own, in millionths of a second. The process whose clock is
furthest behind takes the next step, and a step moves its clock on. A process that has to wait
for another is stuck until another has made a step.
-/

namespace ExampleSuite.Machine

open Shell (Text Command Word Scope)

def toText (bs : Bytes) : Text := bs.map fun b => Char.ofNat b.toNat
def ofText (t : Text) : Bytes := t.map fun c => UInt8.ofNat c.toNat

/-- What an open file leads to. -/
inductive Desc where
  | file (id pos : Nat) (append : Bool)
  | pipeIn (pipe : Nat)
  | pipeOut (pipe : Nat)
  | device (d : Device)
  | dir
  /-- An output that is watched. -/
  | watched (id : Nat)
  deriving Repr

/-- What a shell still has to do. -/
inductive Task where
  | run (c : Command)
  /-- Runs a command once the outputs that stand in its words are there. -/
  | fill (outputs pending : List Text) (c : Command)
  /-- Reads the output of a child to its end. -/
  | collect (pid fd : Nat) (got : Text)
  | onlyIf (expected : Bool) (c : Command)
  | negate
  | branch (yes no : Command)
  /-- Decides on the next round of a loop. The number is the status of the last round. -/
  | loopTest (expected : Bool) (test body : Command) (last : Nat)
  | loopNext (expected : Bool) (test body : Command)
  | eachNext (name : Text) (fields : List Text) (body : Command)
  | await (pid : Nat)
  | awaitAll
  | restore (fds : List (Nat × Nat))
  /-- Ends a call of a function: its parameters, and variables as they were before it. -/
  | endCall (params : List Text) (vars : List (Text × Option Text))
  /-- Ends the commands of a file that was read in the place of a command. -/
  | endFile
  | setStatus (n : Nat)
  | setLine (n : Nat)
  /-- Runs a program in place of the shell. The flag says that the script asked for that. -/
  | exec (asked : Bool) (args : List Text)
  | exit (n : Nat)

/-- Where a script comes from. -/
inductive Script where
  | done
  /-- A file that has been read up to a place. -/
  | file (id pos : Nat)
  /-- The input of the process. -/
  | input

structure ShellState where
  scope : Scope
  exported : List Text
  /-- The part of the script that has been read but not run yet. -/
  source : Text
  /-- Where the rest of the script comes from. -/
  script : Script
  line : Nat
  work : List Task
  funcs : List (Text × Command)
  /-- Commands to run on signals, and on exit under `0`. -/
  traps : List (Nat × Text)
  /-- Variables that keep their values. -/
  fixed : List Text
  /-- Whether the process ends with what the shell has to do. -/
  passing : Bool

/-- A tool at work. -/
inductive Tool where
  | sleep (wakeAt : Nat)
  | say (out err : Text) (status : Nat)
  /-- Copies inputs, the first of which may be open already. -/
  | copy (name : Text) (inputs : List Text) (isOpen : Bool) (limit : Option Nat) (status : Nat)
  /-- Copies so many lines of its inputs. -/
  | copyLines (name : Text) (inputs : List Text) (isOpen : Bool) (left status : Nat)
  /-- Reads inputs to their ends. -/
  | gather (args : List Text) (inputs : List Text) (isOpen : Bool) (now : Text)
    (got : List (Text × Text)) (err : Text)
  | repeats (line : Text)

inductive Program where
  | shell (s : ShellState)
  | tool (t : Tool)

structure Process where
  pid : Nat
  parent : Nat
  clock : Nat
  stuck : Bool
  stopped : Bool
  program : Program
  /-- The open files by their numbers. -/
  fds : List (Nat × Nat)
  cwd : Place
  env : List (Text × Text)
  ignored : List Nat
  /-- Signals that a shell has to act on. -/
  caught : List Nat

/-- The child that is watched. -/
structure Child where
  pid : Nat
  status : Option Status
  /-- Whether the watcher has been told how the child ended. -/
  waited : Bool
  out : Nat
  err : Nat
  deadline : Nat

structure State where
  disk : Disk
  now : Nat
  procs : List Process
  descs : Array Desc
  pipes : Array (Nat × Bytes)
  /-- Ended processes whose parents have not asked for them. -/
  ended : List (Nat × Nat × Status)
  nextPid : Nat
  /-- The watched outputs that are open, with the bytes that have come. -/
  watched : List (Nat × Nat)
  child : Option Child
  listening : Bool
  interrupted : Bool
  /-- The variables that a started program gets. -/
  env : List (Text × Text)

/-- The number of the process that watches. -/
def watcher : Nat := 2

def baseEnv : List (Text × Text) :=
  [("PATH", "/usr/bin:/bin"), ("LANG", "C.UTF-8")].map fun v => (v.1.toList, v.2.toList)

/-- A machine on a disk, with variables besides the usual ones or in place of them. -/
def start (d : Disk) (env : List (Text × Text)) : State :=
  let usual := baseEnv.filter fun v => (env.lookup v.1).isNone
  ⟨d, 0, [], #[], #[], [], 100, [], none, false, false, usual ++ env⟩

namespace State

def desc (m : State) (i : Nat) : Desc := m.descs.getD i .dir

def addDesc (m : State) (d : Desc) : State × Nat :=
  ({ m with descs := m.descs.push d }, m.descs.size)

/-- Whether a process has a file open that is of a kind. -/
def hasOpen (m : State) (f : Desc → Bool) (p : Process) : Bool :=
  p.fds.any fun x => f (m.desc x.2)

def writesPipe (k : Nat) : Desc → Bool
  | .pipeOut j => j == k
  | _ => false

def readsPipe (k : Nat) : Desc → Bool
  | .pipeIn j => j == k
  | _ => false

def writesWatched (k : Nat) : Desc → Bool
  | .watched j => j == k
  | _ => false

/-- Takes an ended process off the machine. Its parent may ask for its status. -/
def finish (m : State) (p : Process) (s : Status) : State :=
  let procs := (m.procs.filter (·.pid != p.pid)).map fun q =>
    if q.parent == p.pid then { q with parent := 1 } else q
  let m := { m with procs := procs, ended := m.ended.filter (·.2.1 != p.pid) }
  match m.child with
  | some c =>
    if c.pid == p.pid then { m with child := some { c with status := some s } }
    else if procs.any (·.pid == p.parent) then
      { m with ended := m.ended ++ [(p.pid, p.parent, s)] }
    else m
  | none =>
    if procs.any (·.pid == p.parent) then
      { m with ended := m.ended ++ [(p.pid, p.parent, s)] }
    else m

def traps (p : Process) (sig : Nat) : Bool :=
  match p.program with
  | .shell s => (s.traps.lookup sig).isSome
  | .tool _ => false

/-- What a signal makes of a process, or the status with which it ends it. -/
def signalled (p : Process) (sig : Nat) : Process ⊕ Status :=
  if !Signal.isSure sig && p.ignored.contains sig then .inl p
  else if !Signal.isSure sig && traps p sig then .inl { p with caught := p.caught ++ [sig] }
  else
    match Signal.effect sig with
    | .none => .inl p
    | .continues => .inl { p with stopped := false }
    | .stops => .inl { p with stopped := true }
    | .ends => .inr (.signal sig)

/-- Sends a signal to a process. -/
def signal (m : State) (pid sig : Nat) : State :=
  match m.procs.find? (·.pid == pid) with
  | none => m
  | some p =>
    match signalled p sig with
    | .inl q => { m with procs := m.procs.map fun r => if r.pid == pid then q else r }
    | .inr s => m.finish p s

def exists_ (m : State) (pid : Nat) : Bool :=
  m.procs.any (·.pid == pid) || m.ended.any (·.1 == pid) || pid == watcher || pid == 1

end State

/-! ### Steps of one process -/

/-- A step in progress: the rest of the machine, the process and what the step costs. -/
structure Turn where
  m : State
  p : Process
  cost : Nat
  stuck : Bool
  ending : Option Status

abbrev Op (α : Type) := StateM Turn α

namespace Op

def proc : Op Process := return (← get).p

def onProc (f : Process → Process) : Op Unit := modify fun t => { t with p := f t.p }

def machine : Op State := return (← get).m

def onMachine (f : State → State) : Op Unit := modify fun t => { t with m := f t.m }

def onDisk (f : Disk → Disk) : Op Unit := onMachine fun m => { m with disk := f m.disk }

def pay (n : Nat) : Op Unit := modify fun t => { t with cost := t.cost + n }

/-- Undoes the step and has it taken again when another process has moved. -/
def wait : Op Unit := modify fun t => { t with stuck := true }

def finish (s : Status) : Op Unit := modify fun t => { t with ending := t.ending.or (some s) }

/-- Sends a signal to a process, which may be this one. -/
def signal (pid sig : Nat) : Op Bool := do
  let p ← proc
  let m ← machine
  if pid == p.pid then
    match State.signalled p sig with
    | .inl q => onProc fun _ => q
    | .inr s => finish s
    return true
  else if pid == watcher then
    if sig == Signal.interrupt && m.listening then
      onMachine fun m => { m with interrupted := true }
    return true
  else if m.exists_ pid then
    let m := { m with procs := m.procs ++ [p] }.signal pid sig
    onProc fun p => (m.procs.find? (·.pid == p.pid)).getD p
    onMachine fun _ => { m with procs := m.procs.filter (·.pid != p.pid) }
    return true
  else return false

/-! ### Files -/

def descOf (fd : Nat) : Op (Option (Nat × Desc)) := do
  let t ← get
  return (t.p.fds.lookup fd).map fun i => (i, t.m.desc i)

def setDesc (i : Nat) (d : Desc) : Op Unit :=
  onMachine fun m => { m with descs := m.descs.set! i d }

def setFd (fd i : Nat) : Op Unit :=
  onProc fun p => { p with fds := (fd, i) :: p.fds.filter (·.1 != fd) }

def closeFd (fd : Nat) : Op Unit :=
  onProc fun p => { p with fds := p.fds.filter (·.1 != fd) }

def newDesc (d : Desc) : Op Nat := do
  let (m, i) := (← machine).addDesc d
  onMachine fun _ => m
  return i

def openFd (fd : Nat) (d : Desc) : Op Unit := do setFd fd (← newDesc d)

/-- How much a pipe holds before its writers have to wait. -/
def pipeRoom : Nat := 65536

/-- Whether a process has a file open that is of a kind. -/
def someoneHas (f : Desc → Bool) : Op Bool := do
  let t ← get
  return t.m.hasOpen f t.p || t.m.procs.any (t.m.hasOpen f)

/-- Ends the process for writing where nobody reads, unless it ignores that. -/
def broken : Op (Except Errno Unit) := do
  let p ← proc
  let _ ← signal p.pid Signal.brokenPipe
  return .error .brokenPipe

def overwrite (old : Bytes) (pos : Nat) (new : Bytes) : Bytes :=
  old.take pos ++ List.replicate (pos - old.length) 0 ++ new ++ old.drop (pos + new.length)

def write (fd : Nat) (bs : Bytes) : Op (Except Errno Unit) := do
  pay (bs.length / 20)
  match ← descOf fd with
  | none => return .error .badDescriptor
  | some (i, .file id pos append) =>
    let old := (← machine).disk.content id
    let at_ := if append then old.length else pos
    onDisk (·.setContent id (overwrite old at_ bs))
    setDesc i (.file id (at_ + bs.length) append)
    return .ok ()
  | some (_, .pipeOut k) =>
    let (n, held) := (← machine).pipes.getD k (0, [])
    if !(← someoneHas (State.readsPipe k)) then broken
    else if pipeRoom ≤ n then
      wait
      return .ok ()
    else
      onMachine fun m =>
        { m with pipes := m.pipes.set! k (n + bs.length, held ++ bs) }
      return .ok ()
  | some (_, .watched k) =>
    match (← machine).watched.lookup k with
    | none => broken
    | some _ =>
      onMachine fun m => { m with watched := m.watched.map fun x =>
        if x.1 == k then (k, x.2 + bs.length) else x }
      return .ok ()
  | some (_, .device _) => return .ok ()
  | some _ => return .error .badDescriptor

/-- Some of what comes next, or nothing at the end. -/
def read (fd n : Nat) : Op (Except Errno Bytes) := do
  match ← descOf fd with
  | none => return .error .badDescriptor
  | some (i, .file id pos append) =>
    let bs := (((← machine).disk.content id).drop pos).take n
    setDesc i (.file id (pos + bs.length) append)
    return .ok bs
  | some (_, .pipeIn k) =>
    let (len, held) := (← machine).pipes.getD k (0, [])
    if len == 0 && (← someoneHas (State.writesPipe k)) then
      wait
      return .ok []
    else
      onMachine fun m => { m with pipes := m.pipes.set! k (len - min n len, held.drop n) }
      return .ok (held.take n)
  | some (_, .device .zero) => return .ok (List.replicate n 0)
  | some (_, .device .null) => return .ok []
  | some (_, .dir) => return .error .isDir
  | some _ => return .error .badDescriptor

/-- The next line, and whether it was ended. -/
def readLine (fd : Nat) : Op (Text × Bool) := do
  let cut (bs : Bytes) : Text × Bool :=
    let line := bs.takeWhile (· != 10)
    (toText line, line.length < bs.length)
  match ← descOf fd with
  | some (i, .file id pos append) =>
    let r := cut (((← machine).disk.content id).drop pos)
    setDesc i (.file id (pos + r.1.length + if r.2 then 1 else 0) append)
    return r
  | some (_, .pipeIn k) =>
    let (len, held) := (← machine).pipes.getD k (0, [])
    let r := cut held
    if !r.2 && (← someoneHas (State.writesPipe k)) then
      wait
      return ([], false)
    else
      let used := r.1.length + if r.2 then 1 else 0
      onMachine fun m => { m with pipes := m.pipes.set! k (len - used, held.drop used) }
      return r
  | _ => return ([], false)

/-- Opens a path. -/
def openPath (kind : Shell.RedirKind) (path : Text) : Op (Except Errno Desc) := do
  let p ← proc
  let m ← machine
  match m.disk.spot p.cwd true (ofText path) with
  | .error e => return .error e
  | .ok (_, some .dir) => return if kind == .read then .ok .dir else .error .isDir
  | .ok (_, some (.device v)) => return .ok (.device v)
  | .ok (_, some (.link _)) => return .error .loop
  | .ok (_, some (.file id)) =>
    if kind == .write then onDisk (·.setContent id [])
    return .ok (.file id 0 (kind == .append))
  | .ok (q, none) =>
    if kind == .read then return .error .noEntry
    else
      let id := m.disk.files.size
      onDisk (·.newFile q ⟨[], false, none⟩)
      return .ok (.file id 0 (kind == .append))

/-! ### Processes -/

/-- The child of this process that would do what is given. -/
def fork (program : Program) (f : Process → Process) : Op Nat := do
  pay 300
  let t ← get
  let pid := t.m.nextPid
  let q : Process := { t.p with
    pid := pid, parent := t.p.pid, program := program, stuck := false, caught := [],
    clock := t.p.clock + t.cost }
  set { t with m := { t.m with nextPid := pid + 1, procs := t.m.procs ++ [f q] } }
  return pid

/-- The status of an ended child, which is then forgotten. -/
def reap (pid : Nat) : Op (Option Status) := do
  let m ← machine
  let p ← proc
  match m.ended.find? fun x => x.1 == pid && x.2.1 == p.pid with
  | some (_, _, s) =>
    onMachine fun m => { m with ended := m.ended.filter (·.1 != pid) }
    return some s
  | none => return none

end Op

end ExampleSuite.Machine
