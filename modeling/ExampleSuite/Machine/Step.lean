import ExampleSuite.Machine.Builtin
import ExampleSuite.Shell.Reader

/-!
One step of a process.

A shell keeps a list of what it still has to do. A step takes the first of these and may put
others in its place. When nothing is left it reads the next line of its script.
-/

namespace ExampleSuite.Machine.Step

open Shell (Text Command Word Redir Part Sign)
open Op (proc machine onProc)
open Builtin (withStatus complain)

def save (s : ShellState) : Op Unit := onProc fun p => { p with program := .shell s }

def push (s : ShellState) (ts : List Task) : ShellState := { s with work := ts ++ s.work }

def faultText : Shell.Fault → Text
  | .openQuote => "Syntax error: Unterminated quoted string".toList
  | .openBrace => "Syntax error: Missing '\x7d'".toList
  | .unexpected w => "Syntax error: ".toList ++ w ++ " unexpected".toList
  | .endOfText e => ("Syntax error: end of file unexpected (expecting \"" ++ e ++ "\")").toList
  | .badSubstitution => "Bad substitution".toList

/-- Ends a shell, after what it was told to do on exit. -/
def leave (s : ShellState) (n : Nat) : Op Unit := do
  match s.traps.lookup 0 with
  | none => Op.finish (.code (n % 256))
  | some cmd =>
    let s := { s with traps := s.traps.filter (·.1 != 0) }
    match Shell.Reader.program cmd with
    | .ok c => save (withStatus { s with work := [.run c, .exit n] } n)
    | .error _ => Op.finish (.code (n % 256))

/-- Ends a shell with a complaint. -/
def abort (s : ShellState) (what : Text) : Op Unit := do
  complain s what
  leave s 2

/-- The copy of a shell that a child starts from. -/
def childOf (s : ShellState) (work : List Task) (source : Text) : ShellState :=
  { s with work := work, source := source, script := .done, traps := [], passing := true }

/-- Moves a shell on, or ends it where it stops on errors outside of conditions. -/
def settle (s : ShellState) (n : Nat) : Op Unit := do
  let s := withStatus s n
  let tested := s.work.any fun t => match t with
    | .onlyIf _ _ | .branch _ _ | .loopTest _ _ _ _ | .negate => true
    | _ => false
  if n != 0 && s.scope.flags.contains 'e' && !tested then leave s n else save s

/-! ### Words -/

/-- The names that fit the segments of a pattern, below what has been found so far. -/
def expandPath (d : Disk) (cwd : Place) : List (List Sign) → Text → List Text
  | [], found => [found]
  | seg :: segs, found =>
    let plain := seg.map (·.1)
    let next (n : Text) := found ++ n ++ if segs.isEmpty then [] else ['/']
    if !Shell.isActive seg then
      if segs.isEmpty && !plain.isEmpty then
        match d.spot cwd false (ofText (next plain)) with
        | .ok (_, some _) => [next plain]
        | _ => []
      else expandPath d cwd segs (next plain)
    else
      match d.tree.list cwd (if found.isEmpty then Path.here else ofText found) with
      | .error _ => []
      | .ok es =>
        let names := (Tool.sortNames (es.map (·.1))).filter fun n =>
          (!Tool.isHidden n || plain.head? == some '.') &&
            Shell.Glob.fits (Shell.pattern seg) (toText n)
        names.flatMap fun n => expandPath d cwd segs (next (toText n))

/-- The names that a field stands for, or the field itself where there are none. -/
def namesOf (flags : Text) (d : Disk) (cwd : Place) (f : List Sign) : List Text :=
  if Shell.isActive f && !flags.contains 'f' then
    match expandPath d cwd (f.splitBy (fun a _ => a.1 != '/') |>.map fun seg =>
        seg.filter (·.1 != '/')) (if (f.head?.map (·.1)) == some '/' then ['/'] else []) with
    | [] => [f.map (·.1)]
    | ns => ns
  else [f.map (·.1)]

/-- Runs an expansion over what the shell knows. -/
def expand {α : Type} (s : ShellState) (outs : List Text) (x : Shell.Expand.M α) :
    α × ShellState × Option Text :=
  let (a, e) := x.run ⟨s.scope, outs, none⟩
  (a, { s with scope := e.scope }, e.fault)

def redirSources (rs : List Redir) : List Text :=
  rs.flatMap fun r => Shell.Expand.sources r.target

/-- The commands whose outputs are needed before a command can start. -/
def sourcesOf : Command → List Text
  | .simple as ws rs =>
    as.flatMap (fun a => Shell.Expand.sources a.2) ++ ws.flatMap Shell.Expand.sources ++
      redirSources rs
  | .redirected _ rs => redirSources rs
  | .each _ (some ws) _ => ws.flatMap Shell.Expand.sources
  | .choose w _ => Shell.Expand.sources w
  | _ => []

/-! ### Redirections -/

/-- A redirection with the text of its target. -/
abbrev Target := Nat × Shell.RedirKind × Text

def targets (rs : List Redir) : Shell.Expand.M (List Target) :=
  rs.mapM fun r => return (r.fd, r.kind, ← Shell.Expand.text r.target)

def openFault (kind : Shell.RedirKind) (path : Text) (e : Errno) : Text :=
  let verb := if kind == .read then "open " else "create "
  let why := if e == .noEntry then
      if kind == .read then "No such file" else "Directory nonexistent"
    else e.text
  "cannot ".toList ++ verb.toList ++ path ++ ": ".toList ++ why.toList

/-- Redirects the files of a process, or tells why not. -/
def redirect : List Target → Op (Option Text)
  | [] => return none
  | (fd, kind, target) :: r => do
    match kind with
    | .dup =>
      if target = ['-'] then
        Op.closeFd fd
        redirect r
      else
        match (Text.number? target).bind fun n => (n : Option Nat) with
        | none => return some ("Bad fd number".toList)
        | some n =>
          match (← proc).fds.lookup n with
          | none => return some (target ++ ": Bad file descriptor".toList)
          | some i =>
            Op.setFd fd i
            redirect r
    | .text =>
      let id := (← machine).disk.files.size
      Op.onDisk fun d => { d with files := d.files.push ⟨ofText target, false, none⟩ }
      Op.openFd fd (.file id 0 false)
      redirect r
    | kind =>
      match ← Op.openPath kind target with
      | .error e => return some (openFault kind target e)
      | .ok d =>
        Op.openFd fd d
        redirect r

/-! ### Commands -/

def freeFd (p : Process) : Nat := (p.fds.foldl (fun n x => max n (x.1 + 1)) 10)

/-- A child of a shell. -/
def forkShell (s : ShellState) (f : Process → Process) : Op Nat := Op.fork (.shell s) f

def nullFd : Op Nat := Op.newDesc (.device .null)

/-- Starts the commands of a pipe, each reading what the one before writes. -/
def startPipe (s : ShellState) : Option Nat → List Command → Op (Option Nat)
  | _, [] => return none
  | input, c :: cs => do
    let withInput (p : Process) : Process := match input with
      | some i => { p with fds := (0, i) :: p.fds.filter (·.1 != 0) }
      | none => p
    let child := childOf s [.run c] []
    match cs with
    | [] => return some (← forkShell child withInput)
    | _ =>
      let k := (← machine).pipes.size
      Op.onMachine fun m => { m with pipes := m.pipes.push (0, []) }
      let i ← Op.newDesc (.pipeIn k)
      let o ← Op.newDesc (.pipeOut k)
      let _ ← forkShell child fun p =>
        let p := withInput p
        { p with fds := (1, o) :: p.fds.filter (·.1 != 1) }
      startPipe s (some i) cs

/-- Leaves loops: takes tasks off up to the end of so many of them. The flag says whether the
last of them goes on. -/
def unwind (goOn : Bool) : Nat → List Task → Option (List (Nat × Nat)) →
    Option (List Task × Option (List (Nat × Nat)))
  | _, [], _ => none
  | n, t :: ts, fds =>
    match t with
    | .loopNext _ _ _ | .eachNext _ _ _ =>
      if n ≤ 1 then some (if goOn then t :: ts else ts, fds) else unwind goOn (n - 1) ts fds
    | .restore saved => unwind goOn n ts (some saved)
    | .endCall _ _ => none
    | _ => unwind goOn n ts fds

/-- Leaves a function or a file: what is left to do after it. -/
def unwindCall : List Task → Option (List (Nat × Nat)) → Option (List Task × Option (List (Nat × Nat)))
  | [], _ => none
  | t :: ts, fds =>
    match t with
    | .endCall _ _ | .endFile => some (t :: ts, fds)
    | .restore saved => unwindCall ts (some saved)
    | _ => unwindCall ts fds

def resume (s : ShellState) : Option (List Task × Option (List (Nat × Nat))) → Op Unit
  | none => save s
  | some (work, fds) => do
    match fds with
    | some fds => onProc fun p => { p with fds := fds }
    | none => pure ()
    save { s with work := work }

/-- Takes the commands of a text before all else. -/
def inline (s : ShellState) (t : Text) (behind : List Task) : Op Unit := do
  match Shell.Reader.program t with
  | .error f => abort s (faultText f)
  | .ok c => save (push (withStatus s 0) (.run c :: behind))

/-- Builtins that change what is to be done next. The flag of the answer says whether there was
one of that name. -/
def control (s : ShellState) (name : String) (args : List Text) : Op Bool := do
  let count := ((args.head?).bind Text.number?).getD 1
  match name with
  | "exit" =>
    match args with
    | [] => leave s s.scope.status
    | a :: _ =>
      match Text.number? a with
      | some n => leave s n
      | none => abort s ("exit: Illegal number: ".toList ++ a)
    return true
  | "break" =>
    resume (withStatus s 0) (unwind false count s.work none)
    return true
  | "continue" =>
    resume (withStatus s 0) (unwind true count s.work none)
    return true
  | "return" =>
    let go (n : Nat) : Op Unit :=
      match unwindCall s.work none with
      | some r => resume (withStatus s n) (some r)
      | none => leave s n
    match args with
    | [] => go s.scope.status
    | a :: _ =>
      match Text.number? a with
      | some n => go n
      | none => abort s ("return: Illegal number: ".toList ++ a)
    return true
  | "eval" =>
    inline s ([' '].intercalate args) []
    return true
  | "." =>
    match args with
    | [] => save (withStatus s 0)
    | a :: _ =>
      if !a.contains '/' then abort s (".: ".toList ++ a ++ ": not found".toList)
      else match ← Op.openPath .read a with
      | .ok (.file id _ _) => inline s (toText ((← machine).disk.content id)) [.endFile]
      | _ => abort s (".: cannot open ".toList ++ a ++ ": No such file".toList)
    return true
  | "wait" =>
    match args.head?.bind Text.number? with
    | none => save (push s [.awaitAll])
    | some pid =>
      let m ← machine
      let p ← proc
      if m.ended.any (fun x => x.1 == pid && x.2.1 == p.pid) ||
          m.procs.any (fun q => q.pid == pid && q.parent == p.pid) then
        save (push s [.await pid])
      else save (withStatus s 127)
    return true
  | _ => return false

/-- Whether nothing is left to do for a shell after what it is about to do. -/
def isLast (s : ShellState) : Bool :=
  s.passing && s.work.isEmpty && s.source.all (fun c => c == '\n' || c == ' ') && s.traps.isEmpty

/-- Starts a program in a child, or in the place of a shell that has nothing else to do. -/
def external (s : ShellState) (env : List (Text × Text)) (fields : List Text)
    (saved : List (Nat × Nat)) : Op Unit := do
  if isLast s then
    save (push { s with source := [] } [.exec false fields])
    onProc fun p => { p with env := env }
  else
    let pid ← forkShell (childOf s [.exec false fields] []) fun p => { p with env := env }
    onProc fun p => { p with fds := saved }
    save (push s [.await pid])

def assign (s : ShellState) (as : List (Text × Text)) : ShellState :=
  as.foldl (fun s a => Builtin.setVar s a.1 a.2) s

def isControl (name : String) : Bool :=
  ["exit", "break", "continue", "return", "eval", ".", "wait"].contains name

def restoreFds (fds : List (Nat × Nat)) : Op Unit := onProc fun p => { p with fds := fds }

/-- Replaces the shell by another program, or just keeps the redirections. -/
def replace (s : ShellState) (as : List (Text × Text)) (args : List Text) : Op Unit := do
  if args.isEmpty then save (withStatus (assign s as) 0)
  else
    let env := Builtin.environment (assign { s with exported := addNew s.exported (as.map (·.1)) } as)
    save (push { s with source := [], work := [], traps := [] } [.exec true args])
    onProc fun p => { p with env := env }

/-- Runs a command without pipes or branches, its words being expanded. -/
def dispatch (s : ShellState) (as : List (Text × Text)) (ts : List Target) (fields : List Text)
    (hadOutput : Bool) : Op Unit := do
  let saved := (← proc).fds
  if s.scope.flags.contains 'x' then
    let words := as.map (fun a => a.1 ++ '=' :: a.2) ++ fields
    let _ ← Op.write 2 (ofText ("+ ".toList ++ [' '].intercalate words ++ ['\n']))
  let held := as.find? fun a => s.fixed.contains a.1
  let fault ← redirect ts
  match held.map (·.1 ++ ": is read only".toList), fault, fields with
  | some why, _, _ => abort s why
  | none, fault, fields =>
  match fault, fields with
  | some why, fields =>
    restoreFds saved
    complain s why
    if Builtin.special.contains (String.ofList (fields.headD [])) then leave s 2
    else settle s 2
  | none, [] =>
    restoreFds saved
    save (withStatus (assign s as) (if hadOutput then s.scope.status else 0))
  | none, name :: args =>
    let str := String.ofList name
    match s.funcs.lookup name with
    | some body =>
      save (push (Builtin.withParams (assign s as) args)
        [.run body, .endCall s.scope.params [], .restore saved])
    | none =>
      if str == "exec" then replace s as args
      else if str == "command" && !args.isEmpty && (args.headD []).head? != some '-' then
        let inner := args.headD []
        if Builtin.is_ inner && !isControl (String.ofList inner) then
          let (s, n) ← Builtin.run (assign s as) (String.ofList inner) args.tail
          restoreFds saved
          settle s n
        else if isControl (String.ofList inner) then
          let _ ← control (assign s as) (String.ofList inner) args.tail
        else external s (as ++ Builtin.environment s) args saved
      else if isControl str then
        let _ ← control (assign s as) str args
        if str != "break" && str != "continue" && str != "return" then restoreFds saved
      else if Builtin.is_ name then
        let (s, n) ← Builtin.run (assign s as) str args
        restoreFds saved
        if n != 0 && ["local", "set", "shift", "unset"].contains str then leave s n else settle s n
      else external s (as ++ Builtin.environment s) fields saved

/-- Starts a command whose outputs are there. -/
def perform (s : ShellState) (c : Command) (outs : List Text) : Op Unit := do
  match c with
  | .simple as ws rs =>
    let ((values, fs, ts), s, fault) := expand s outs do
      let values ← as.mapM fun a => return (a.1, ← Shell.Expand.text a.2)
      let fs ← Shell.Expand.words ws
      return (values, fs, ← targets rs)
    match fault with
    | some why => abort s why
    | none =>
      let d := (← machine).disk
      let cwd := (← proc).cwd
      dispatch s values ts (fs.flatMap (namesOf s.scope.flags d cwd)) (!outs.isEmpty)
  | .redirected c rs =>
    let (ts, s, fault) := expand s outs (targets rs)
    match fault with
    | some why => abort s why
    | none =>
      let saved := (← proc).fds
      match ← redirect ts with
      | some why =>
        restoreFds saved
        complain s why
        settle s 2
      | none => save (push s [.run c, .restore saved])
  | .each name ws body =>
    let (fs, s, fault) := expand s outs (match ws with
      | some ws => Shell.Expand.words ws
      | none => return s.scope.params.map fun p => p.map (·, false))
    match fault with
    | some why => abort s why
    | none =>
      let d := (← machine).disk
      let cwd := (← proc).cwd
      save (push (withStatus s 0) [.eachNext name (fs.flatMap (namesOf s.scope.flags d cwd)) body])
  | .choose w arms =>
    let (arm, s, fault) := expand s outs do
      let t ← Shell.Expand.text w
      let mut hit : Option Command := none
      for (ps, body) in arms do
        for p in ps do
          if hit.isNone && Shell.Glob.fits (Shell.pattern (← Shell.Expand.patternOf p)) t then
            hit := some body
      return hit
    match fault, arm with
    | some why, _ => abort s why
    | none, some body => save (push (withStatus s 0) [.run body])
    | none, none => save (withStatus s 0)
  | _ => save s

def runCommand (s : ShellState) (c : Command) : Op Unit := do
  match c with
  | .skip => save s
  | .simple _ _ _ | .redirected _ _ | .each _ _ _ | .choose _ _ =>
    match sourcesOf c with
    | [] => perform s c []
    | srcs => save (push s [.fill [] srcs c])
  | .pipe negated cs =>
    let s := if negated then push s [.negate] else s
    match cs with
    | [c] => save (push s [.run c])
    | cs =>
      match ← startPipe s none cs with
      | some pid => save (push s [.await pid])
      | none => save s
  | .both a b => save (push s [.run a, .onlyIf true b])
  | .either a b => save (push s [.run a, .onlyIf false b])
  | .seq a b => save (push s [.run a, .run b])
  | .cond t y n => save (push s [.run t, .branch y n])
  | .loop e t b => save (push s [.run t, .loopTest e t b 0])
  | .define name body =>
    save (withStatus { s with funcs := (name, body) :: s.funcs.filter (·.1 != name) } 0)
  | .subshell c =>
    if isLast s then save (childOf s [.run c] [])
    else
      let pid ← forkShell (childOf s [.run c] []) id
      save (push s [.await pid])
  | .background c =>
    let i ← nullFd
    let pid ← forkShell (childOf s [.run c] []) fun p =>
      { p with fds := (0, i) :: p.fds.filter (·.1 != 0), ignored := 2 :: 3 :: p.ignored }
    save (withStatus { s with scope := { s.scope with lastJob := some pid } } 0)

/-- What a shell says of a child that a signal ended. -/
def obituary (n : Nat) : Text :=
  match n with
  | 1 => "Hangup\n".toList
  | 3 => "Quit\n".toList
  | 4 => "Illegal instruction\n".toList
  | 6 => "Aborted\n".toList
  | 8 => "Floating point exception\n".toList
  | 9 => "Killed\n".toList
  | 10 => "User defined signal 1\n".toList
  | 11 => "Segmentation fault\n".toList
  | 12 => "User defined signal 2\n".toList
  | 14 => "Alarm clock\n".toList
  | 15 => "Terminated\n".toList
  | _ => []

/-- Runs a program in place of a shell that was made for it. -/
def become (s : ShellState) (asked : Bool) (args : List Text) : Op Unit := do
  Op.pay 400
  let p ← proc
  let name := args.headD []
  let fail (why : Text) (n : Nat) : Op Unit := do
    complain s ((if asked then "exec: ".toList else []) ++ name ++ ": ".toList ++ why)
    Op.finish (.code n)
  let d := (← machine).disk
  let dirs := (Exec.pathOf? p.env).getD (Exec.pathOf s.scope.vars)
  match Exec.search (Exec.loadScript d p.cwd) dirs name args with
  | .ok img => Exec.run Exec.maxWrappers img
  | .error e =>
    if name.isEmpty then fail "Permission denied".toList 127
    else if e == .noEntry || e == .notDir then fail "not found".toList 127
    else fail e.text.toList 126

def statusOf : Status → Nat
  | .code n => n
  | .signal n => 128 + n

/-- Does one task; the rest of the work is in the shell. -/
def doTask (s : ShellState) (t : Task) : Op Unit := do
  match t with
  | .run c => runCommand s c
  | .fill outs [] c => perform s c outs
  | .fill outs (src :: srcs) c =>
    let k := (← machine).pipes.size
    Op.onMachine fun m => { m with pipes := m.pipes.push (0, []) }
    let i ← Op.newDesc (.pipeIn k)
    let o ← Op.newDesc (.pipeOut k)
    let pid ← forkShell (childOf s [] src) fun p =>
      { p with fds := (1, o) :: p.fds.filter (·.1 != 1) }
    let fd := freeFd (← proc)
    Op.setFd fd i
    save (push s [.collect pid fd [], .fill outs srcs c])
  | .collect pid fd got =>
    match ← Op.read fd Tool.chunk with
    | .ok [] =>
      Op.closeFd fd
      match s.work with
      | .fill outs srcs c :: rest =>
        save { s with work := .await pid :: .fill (outs ++ [got]) srcs c :: rest }
      | _ => save s
    | .ok bs => save (push s [.collect pid fd (got ++ toText bs)])
    | .error _ => save s
  | .onlyIf expected c =>
    save (if (s.scope.status == 0) == expected then push s [.run c] else s)
  | .negate => save (withStatus s (if s.scope.status == 0 then 1 else 0))
  | .branch yes no =>
    match if s.scope.status == 0 then yes else no with
    | .skip => save (withStatus s 0)
    | c => save (push s [.run c])
  | .loopTest expected test body last =>
    if (s.scope.status == 0) == expected then
      save (push s [.run body, .loopNext expected test body])
    else save (withStatus s last)
  | .loopNext expected test body =>
    save (push s [.run test, .loopTest expected test body s.scope.status])
  | .eachNext _ [] _ => save s
  | .eachNext name (f :: fs) body =>
    save (push (Builtin.setVar s name f) [.run body, .eachNext name fs body])
  | .await pid =>
    match ← Op.reap pid with
    | none => if (← machine).procs.any (·.pid == pid) then Op.wait else save s
    | some st =>
      match st with
      | .signal n =>
        if !(obituary n).isEmpty then
          let _ ← Op.write 2 (ofText (obituary n))
      | .code _ => pure ()
      settle s (statusOf st)
  | .awaitAll =>
    let p ← proc
    if (← machine).procs.any (·.parent == p.pid) then Op.wait
    else
      Op.onMachine fun m => { m with ended := m.ended.filter (·.2.1 != p.pid) }
      save (withStatus s 0)
  | .restore fds =>
    restoreFds fds
    save s
  | .endCall params vars =>
    save (vars.foldl (fun s v => match v.2 with
      | some t => Builtin.setVar s v.1 t
      | none => Builtin.unsetVar s v.1) (Builtin.withParams s params))
  | .endFile => save s
  | .setStatus n => save (withStatus s n)
  | .setLine n => save { s with line := n }
  | .exec asked args => become s asked args
  | .exit n => leave s n

/-- Reads what there is beyond what has been read of a script, or ends. -/
def readMore (s : ShellState) : Op Unit := do
  match s.script with
  | .done => leave s s.scope.status
  | .file id n =>
    let more := ((← machine).disk.content id).drop n
    if more.isEmpty then leave s s.scope.status
    else save { s with source := toText more, script := .file id (n + more.length) }
  | .input =>
    match ← Op.read 0 Tool.chunk with
    | .ok (b :: bs) => save { s with source := toText (b :: bs) }
    | _ => if (← get).stuck then save s else leave s s.scope.status

/-- Reads the next line of the script, or ends with it. -/
def nextLine (s : ShellState) : Op Unit := do
  match Shell.Reader.line? s.source with
  | none => readMore s
  | some (.error f) => abort s (faultText f)
  | some (.ok (c, rest)) =>
    let skipped := (s.source.takeWhile fun c => c == '\n').length
    let used := (s.source.take (s.source.length - rest.length)).count '\n'
    let line := s.line + skipped
    save { s with
      work := [.run c, .setLine (s.line + used)], source := rest, line := line }

/-- Whether a shell waits for a child and lets signals wait. -/
def isWaiting (s : ShellState) : Bool :=
  match s.work with
  | .await _ :: _ | .collect _ _ _ :: _ => true
  | _ => false

def shellStep (s : ShellState) : Op Unit := do
  Op.pay 4
  match (← proc).caught with
  | sig :: sigs =>
    if isWaiting s then
      match s.work with
      | t :: ts => doTask { s with work := ts } t
      | [] => pure ()
    else
      onProc fun p => { p with caught := sigs }
      match (s.traps.lookup sig).map Shell.Reader.program with
      | some (.ok c) => save (push s [.run c, .setStatus s.scope.status])
      | _ => save s
  | [] =>
    match s.work with
    | t :: ts => doTask { s with work := ts } t
    | [] => nextLine s

/-- One step of a process. -/
def step : Op Unit := do
  match (← proc).program with
  | .shell s => shellStep s
  | .tool t =>
    Op.pay 5
    Tool.step t

end ExampleSuite.Machine.Step
