import ExampleSuite.Machine.Step

/-!
The machine as the system around a run.

The machine moves by steps of its processes until something can be seen of the watched child.
A watch ends at the latest when the time of the child is over, and no step is free, so the
time that is left bounds the number of steps.
-/

namespace ExampleSuite.Machine

/-- Has a process take its step. A process that could not move is stuck until another has
moved. -/
def turn (m : State) (p : Process) : State :=
  let others := { m with procs := m.procs.filter (·.pid != p.pid), now := max m.now p.clock }
  let t := (Step.step.run ⟨others, p, 0, false, none⟩).2
  if t.stuck then
    { m with
      now := max m.now p.clock
      procs := m.procs.map fun q => if q.pid == p.pid then { q with stuck := true } else q }
  else
    let free (q : Process) : Process :=
      if q.stuck then { q with stuck := false, clock := max q.clock p.clock } else q
    let p' := { t.p with clock := p.clock + max 1 t.cost }
    let m' := { t.m with procs := t.m.procs.map free }
    match t.ending with
    | some s => { m' with procs := m'.procs ++ [p'] }.finish p' s
    | none => { m' with procs := m'.procs ++ [p'] }

/-- The process that is furthest behind of those that can move. -/
def nextProcess (m : State) : Option Process :=
  m.procs.foldl
    (fun best p =>
      if p.stuck || p.stopped then best
      else match best with
        | some b => if p.clock < b.clock then some p else best
        | none => some p)
    none

/-- How many bytes came on a watched output, if nobody can write to it any more. -/
def closed? (m : State) (k : Nat) : Option Nat :=
  if m.procs.any (m.hasOpen (State.writesWatched k)) then none
  else some ((m.watched.lookup k).getD 0)

/-- What can be seen of the child right now. -/
def sight (w : Watch) (m : State) (c : Child) : Option (State × Event w) :=
  match hs : w.status, c.status with
  | none, some s => some ({ m with child := some { c with waited := true } }, .exited s hs)
  | _, _ =>
    match ho : w.out, closed? m c.out with
    | none, some n => some ({ m with watched := m.watched.filter (·.1 != c.out) }, .outClosed n ho)
    | _, _ =>
      match he : w.err, closed? m c.err with
      | none, some n =>
        some ({ m with watched := m.watched.filter (·.1 != c.err) }, .errClosed n he)
      | _, _ => if m.interrupted then some ({ m with interrupted := false }, .interrupted) else none

/-- Moves the machine until something can be seen, for no more than so many steps. -/
def watch (w : Watch) : Nat → State → State × Event w
  | 0, m => (m, .elapsed)
  | n + 1, m =>
    match m.child with
    | none => (m, .elapsed)
    | some c =>
      match sight w m c with
      | some r => r
      | none =>
        match nextProcess m with
        | none => ({ m with now := max m.now c.deadline }, .elapsed)
        | some p =>
          if c.deadline ≤ p.clock then ({ m with now := max m.now c.deadline }, .elapsed)
          else watch w n (turn m p)

/-- How many steps the processes of a machine may take in a millionth of a second. -/
def width : Nat := 4096

def next (w : Watch) (m : State) : State × Event w :=
  watch w (((m.child.map (·.deadline)).getD 0 + 1 - m.now) * width + width) m

/-- How long it takes to start a program. -/
def startTime : Nat := 1000

/-- The process that a program becomes, and what it is started on. -/
def child (m : State) (null out err : Nat) : Process where
  pid := m.nextPid
  parent := watcher
  clock := m.now + startTime
  stuck := false
  stopped := false
  program := .tool (.say [] [] 0)
  fds := [(0, null), (1, out), (2, err)]
  cwd := home
  env := m.env
  ignored := []
  caught := []

/-- Starts a program on one argument. -/
def spawn (program arg : Path) (budget : Nat) (m : State) : State × Except Cause Nat :=
  if 0 ∈ program ∨ 0 ∈ arg then (m, .error .nulInArgument)
  else
    let args := [toText program, toText arg]
    let dirs := (Exec.pathOf? m.env).getD Exec.searchPath
    match Exec.search (Exec.load m.disk home Exec.maxScripts) dirs (toText program) args with
    | .error e => (m, .error (.os e))
    | .ok img =>
      let (m, null) := m.addDesc (.device .null)
      let k := m.descs.size
      let (m, out) := m.addDesc (.watched k)
      let (m, err) := m.addDesc (.watched (k + 1))
      let p := child m null out err
      let t := ((Exec.run Exec.maxWrappers img).run ⟨m, p, 0, false, none⟩).2
      let now := m.now + startTime
      let c : Child := ⟨p.pid, none, false, k, k + 1, now + budget * 1000⟩
      ({ t.m with
        procs := t.m.procs ++ [t.p]
        nextPid := m.nextPid + 1
        now := now
        watched := (k, 0) :: (k + 1, 0) :: t.m.watched
        child := some c }, .ok p.pid)

/-- Kills the child and waits for it, which fails if it has been waited for before. -/
def kill (m : State) : State × Except Cause Unit :=
  match m.child with
  | none => (m, .ok ())
  | some c =>
    let m := { m with watched := m.watched.filter fun x => x.1 != c.out && x.1 != c.err }
    if c.waited then (m, .error (.other "invalid argument: can't kill an exited process"))
    else
      let m := m.signal c.pid Signal.kill
      ({ m with child := m.child.map fun c => { c with waited := true } }, .ok ())

def poll (m : State) : State × Except Cause (Option Status) :=
  (m, .ok (m.child.bind fun c => if c.waited then c.status else none))

/-- The machine as the system that a run asks. -/
def system : Host State where
  disk := (·.disk)
  cwd := home
  listen := fun m => { m with listening := true }
  start := spawn
  next := next
  kill := kill
  poll := poll
  check := fun m => ({ m with interrupted := false }, m.interrupted)

end ExampleSuite.Machine
