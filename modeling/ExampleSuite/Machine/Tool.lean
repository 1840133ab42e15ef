import ExampleSuite.Machine.Text

/-!
The tools of the machine.

A tool either does its work at once and then prints what it has to say, or it goes through its
inputs piece by piece.
-/

namespace ExampleSuite.Machine.Tool

open Shell (Text)
open Text (lines unlines number? decimal)
open Op (proc machine onDisk onProc)

/-- What a tool prints, what it prints as a complaint, and its status. -/
structure Result where
  out : Text
  err : Text
  status : Nat

def Result.ok (out : Text) : Result := ⟨out, [], 0⟩

/-- One result after the other. The worse status counts. -/
def Result.append (a b : Result) : Result := ⟨a.out ++ b.out, a.err ++ b.err, max a.status b.status⟩

def complain (tool : String) (what : Text) : Result :=
  ⟨[], (tool ++ ": ").toList ++ what ++ ['\n'], 1⟩

/-- A text between quotation marks, as bytes. -/
def curly (t : Text) : Text := [226, 128, 152].map Char.ofNat ++ t ++ [226, 128, 153].map Char.ofNat

def about (tool what : String) (path : Text) (e : Errno) : Result :=
  complain tool (what.toList ++ '\'' :: path ++ "': ".toList ++ e.text.toList)

def aboutDir (path : Text) (e : Errno) : Result :=
  complain "mkdir" ("cannot create directory ".toList ++ curly path ++ ": ".toList ++ e.text.toList)

/-- The letters of the flags in front, and what follows them. -/
def flags : List Text → List Char × List Text
  | a :: r =>
    if a = "--".toList then ([], r)
    else if a.length > 1 && a.head? == some '-' then
      let x := flags r
      (a.tail ++ x.1, x.2)
    else ([], a :: r)
  | [] => ([], [])

/-- Does the same to each of some paths. -/
def forAll (f : Text → Op Result) : List Text → Op Result
  | [] => return .ok []
  | a :: r => return (← f a).append (← forAll f r)

def spotOf (follow : Bool) (path : Text) : Op (Except Errno Tree.Spot) := do
  return (← machine).disk.spot (← proc).cwd follow (ofText path)

def baseName (path : Text) : Text := toText ((Path.fileName (ofText path)).getD (ofText path))

def below (dir name : Text) : Text := toText (Path.join (ofText dir) (ofText name))

/-! ### Tools that work at once -/

def remove (fs : List Char) (path : Text) : Op Result := do
  let force := fs.contains 'f'
  let last := ((path.reverse.dropWhile (· == '/')).takeWhile (· != '/')).reverse
  if last = ['.'] ∨ last = ['.', '.'] then
    return complain "rm" ("refusing to remove '.' or '..' directory: skipping '".toList ++ path ++
      ['\''])
  match ← spotOf false path with
  | .ok (q, some .dir) =>
    if fs.contains 'r' || fs.contains 'R' then
      onDisk fun d => { d with tree := d.tree.remove q }
      return .ok []
    else return about "rm" "cannot remove " path .isDir
  | .ok (q, some _) =>
    onDisk fun d => { d with tree := d.tree.remove q }
    return .ok []
  | .ok (_, none) => return if force then .ok [] else about "rm" "cannot remove " path .noEntry
  | .error e =>
    return if force && (e == .noEntry || e == .notDir) then .ok []
      else about "rm" "cannot remove " path e

def trimSlash (path : Text) : Text :=
  let t := (path.reverse.dropWhile (· == '/')).reverse
  if t.isEmpty then path else t

def makeDir (fs : List Char) (path : Text) : Op Result := do
  if fs.contains 'p' then
    onDisk (·.makeDir (← proc).cwd (ofText path))
    match ← spotOf true path with
    | .ok (_, some .dir) => return .ok []
    | _ => return aboutDir path .notDir
  else
    match ← spotOf false (trimSlash path) with
    | .ok (q, none) =>
      onDisk (·.newDir q)
      return .ok []
    | .ok (_, some _) => return aboutDir path .exists_
    | .error e => return aboutDir path e

def removeDir (path : Text) : Op Result := do
  match ← spotOf false path with
  | .ok (q, some .dir) =>
    if ((← machine).disk.tree.below q).isEmpty then
      onDisk fun d => { d with tree := d.tree.remove q }
      return .ok []
    else return about "rmdir" "failed to remove " path .notEmpty
  | .ok (_, some _) => return about "rmdir" "failed to remove " path .notDir
  | .ok (_, none) => return about "rmdir" "failed to remove " path .noEntry
  | .error e => return about "rmdir" "failed to remove " path e

def touch (path : Text) : Op Result := do
  match ← spotOf true path with
  | .ok (q, none) =>
    onDisk (·.newFile q ⟨[], false, none⟩)
    return .ok []
  | .ok (_, some _) => return .ok []
  | .error e => return about "touch" "cannot touch " path e

/-- Where something ends up that is put at a path, which may be a directory. -/
def intoDir (src dst : Text) : Op Text := do
  match ← spotOf true dst with
  | .ok (_, some .dir) => return below dst (baseName src)
  | _ => return dst

def moveTo (dst src : Text) : Op Result := do
  match ← spotOf false src with
  | .error e => return about "mv" "cannot stat " src e
  | .ok (_, none) => return about "mv" "cannot stat " src .noEntry
  | .ok (p, some e) =>
    let dst ← intoDir src dst
    match ← spotOf false dst with
    | .error e => return about "mv" "cannot move to " dst e
    | .ok (q, old) =>
      if p == q then return about "mv" "same file " src .exists_
      else if p.isPrefixOf q then return about "mv" "cannot move into itself " src .invalid
      else
        match old, e with
        | some .dir, .dir =>
          if ((← machine).disk.tree.below q).isEmpty then
            onDisk fun d => { d with tree := d.tree.move p q }
            return .ok []
          else return about "mv" "cannot move to " dst .notEmpty
        | some .dir, _ => return about "mv" "cannot overwrite " dst .isDir
        | some _, .dir => return about "mv" "cannot overwrite " dst .notDir
        | _, _ =>
          onDisk fun d => { d with tree := d.tree.move p q }
          return .ok []

/-- Copies what lies at a place, and all below it, to another place. -/
def copyTree (d : Disk) (p q : Place) : Disk :=
  d.tree.entries.foldl
    (fun s x =>
      if p.isPrefixOf x.1 then
        let dst := q ++ x.1.drop p.length
        match x.2 with
        | .file id => s.newFile dst (d.file id)
        | e => { s with tree := s.tree.put dst e }
      else s)
    d

def copyTo (fs : List Char) (dst src : Text) : Op Result := do
  match ← spotOf true src with
  | .error e => return about "cp" "cannot stat " src e
  | .ok (_, none) => return about "cp" "cannot stat " src .noEntry
  | .ok (p, some .dir) =>
    if !(fs.any ("rRa".toList.contains ·)) then
      return complain "cp" ("-r not specified; omitting directory '".toList ++ src ++ ['\''])
    else
      match ← spotOf true (← intoDir src dst) with
      | .ok (q, _) =>
        onDisk (copyTree · p q)
        return .ok []
      | .error e => return about "cp" "cannot create " dst e
  | .ok (_, some (.file id)) =>
    let f := (← machine).disk.file id
    let dst ← intoDir src dst
    match ← spotOf true dst with
    | .ok (q, none) =>
      onDisk (·.newFile q f)
      return .ok []
    | .ok (_, some (.file old)) =>
      onDisk (·.setContent old f.content)
      return .ok []
    | .ok (_, some _) => return .ok []
    | .error e => return about "cp" "cannot create regular file " dst e
  | .ok (_, some _) =>
    touch (← intoDir src dst)

def link (fs : List Char) (dst src : Text) : Op Result := do
  let dst ← intoDir src dst
  match ← spotOf false dst with
  | .error e => return about "ln" "failed to create link " dst e
  | .ok (q, old) =>
    if old.isSome && !fs.contains 'f' then
      return about "ln" "failed to create link " dst .exists_
    else if fs.contains 's' then
      onDisk fun d => { d with tree := d.tree.put q (.link (ofText src)) }
      return .ok []
    else
      match ← spotOf false src with
      | .ok (_, some .dir) => return about "ln" "hard link not allowed for directory " src .isDir
      | .ok (_, some e) =>
        onDisk fun d => { d with tree := d.tree.put q e }
        return .ok []
      | .ok (_, none) => return about "ln" "failed to access " src .noEntry
      | .error e => return about "ln" "failed to access " src e

/-- Uses the last argument as the place that the others go to. -/
def toLast (tool : String) (f : Text → Text → Op Result) (args : List Text) : Op Result :=
  match args.reverse with
  | dst :: src :: r => forAll (f dst) (src :: r).reverse
  | _ => return complain tool "missing file operand".toList

def setMode (mode path : Text) : Op Result := do
  match ← spotOf true path with
  | .ok (_, some (.file id)) =>
    let f := (← machine).disk.file id
    let x :=
      match number? mode with
      | some _ => mode.any fun c => "1357".toList.contains c
      | none =>
        if mode.contains 'x' then !mode.contains '-'
        else if mode.contains '=' then false else f.executable
    onDisk (·.setFile id { f with executable := x })
    return .ok []
  | .ok (_, some _) => return .ok []
  | .ok (_, none) => return about "chmod" "cannot access " path .noEntry
  | .error e => return about "chmod" "cannot access " path e

def isHidden (name : Bytes) : Bool := name.head? == some 46

def sortNames (ns : List Bytes) : List Bytes := ns.mergeSort Bytes.le

def listDir (fs : List Char) (q : Place) : Op Text := do
  let ns := ((← machine).disk.tree.below q).map (·.1)
  let ns := if fs.contains 'a' then [46] :: [46, 46] :: ns else ns
  let shown := if fs.contains 'a' || fs.contains 'A' then ns else ns.filter fun n => !isHidden n
  return unlines ((sortNames shown).map toText)

def list (fs : List Char) (args : List Text) : Op Result := do
  let named := if args.isEmpty then [['.']] else args
  let mut files : Text := []
  let mut dirs : List Text := []
  let mut bad : Result := .ok []
  for a in named do
    match ← spotOf true a with
    | .ok (q, some .dir) =>
      if fs.contains 'd' then files := files ++ a ++ ['\n']
      else
        let body ← listDir fs q
        dirs := dirs ++ [if named.length > 1 then a ++ ":\n".toList ++ body else body]
    | .ok (_, some _) => files := files ++ a ++ ['\n']
    | _ =>
      match ← spotOf false a with
      | .ok (_, some _) => files := files ++ a ++ ['\n']
      | _ =>
        bad := bad.append { about "ls" "cannot access " a .noEntry with status := 2 }
  let gap := if files.isEmpty || dirs.isEmpty then [] else ['\n']
  return (Result.ok (files ++ gap ++ ['\n'].intercalate dirs)).append bad

def placeText (q : Place) : Text :=
  if q.isEmpty then ['/'] else toText (q.flatMap fun n => Path.slash :: n)

def workingDir : Op Text := return placeText (← proc).cwd

def dirName (path : Text) : Text :=
  let t := trimSlash path
  let i := (t.reverse.takeWhile (· != '/')).length
  let d := trimSlash (t.take (t.length - i))
  if d.isEmpty then ['.'] else d

def baseNameOf (args : List Text) : Text :=
  let n := ((trimSlash (args.headD [])).reverse.takeWhile (· != '/')).reverse
  match args[1]? with
  | some suffix =>
    if suffix.isSuffixOf n && suffix != n then n.take (n.length - suffix.length) else n
  | none => n

/-! ### Conditions -/

def fileTest (c : Char) (path : Text) : Op Bool := do
  let entry (follow : Bool) : Op (Option Entry) := do
    match ← spotOf follow path with
    | .ok (_, e) => return e
    | .error _ => return none
  let d := (← machine).disk
  match c with
  | 'e' => return (← entry true).isSome
  | 'f' => match ← entry true with
    | some (.file _) => return true
    | _ => return false
  | 'd' => return (← entry true) == some .dir
  | 'L' | 'h' => match ← entry false with
    | some (.link _) => return true
    | _ => return false
  | 's' => match ← entry true with
    | some (.file id) => return !(d.content id).isEmpty
    | some .dir => return true
    | _ => return false
  | 'x' => match ← entry true with
    | some (.file id) => return (d.file id).executable
    | some .dir => return true
    | _ => return false
  | 'c' => match ← entry true with
    | some (.device _) => return true
    | _ => return false
  | 'r' | 'w' => return (← entry true).isSome
  | _ => return false

/-- A whole number in decimal, with blanks around it. -/
def number10? (t : Text) : Option Int :=
  let blank (c : Char) : Bool := c == ' ' || ('\t' ≤ c && c ≤ '\r')
  let t := ((t.dropWhile blank).reverse.dropWhile blank).reverse
  let ds := if t.head? = some '-' ∨ t.head? = some '+' then t.tail else t
  if ds ≠ [] ∧ ds.all Char.isDigit then
    let n : Int := Shell.Expand.number ds
    some (if t.head? = some '-' then -n else n)
  else none

def compare? (op : Text) (a b : Text) : Option Bool :=
  let ints (f : Int → Int → Bool) : Option Bool :=
    match number10? a, number10? b with
    | some x, some y => some (f x y)
    | _, _ => none
  match String.ofList op with
  | "=" => some (a == b)
  | "!=" => some (a != b)
  | "-eq" => ints (· == ·)
  | "-ne" => ints (· != ·)
  | "-lt" => ints (· < ·)
  | "-le" => ints (· ≤ ·)
  | "-gt" => ints (· > ·)
  | "-ge" => ints (· ≥ ·)
  | "-ef" => some (a == b)
  | "-nt" | "-ot" => some false
  | "<" => some (Bytes.le (ofText a) (ofText b) && a != b)
  | ">" => some (Bytes.le (ofText b) (ofText a) && a != b)
  | _ => none

def isBinary (op : Text) : Bool :=
  ["=", "!=", "-eq", "-ne", "-lt", "-le", "-gt", "-ge", "-ef", "-nt", "-ot", "<",
    ">"].contains (String.ofList op)

def isUnary (op : Text) : Bool :=
  match op with
  | ['-', c] => "bcdefghknprstuwxzGLOS".toList.contains c
  | _ => false

def unary (op arg : Text) : Op Bool :=
  match op with
  | ['-', 'n'] => return !arg.isEmpty
  | ['-', 'z'] => return arg.isEmpty
  | ['-', c] => fileTest c arg
  | _ => return false

mutual

/-- The value of a condition, and the arguments that follow it. -/
def condition : Nat → List Text → Op (Option (Bool × List Text))
  | 0, _ => return none
  | n + 1, args => do
    match ← conjunction n args with
    | some (a, ['-', 'o'] :: r) =>
      match ← condition n r with
      | some (b, r) => return some (a || b, r)
      | none => return none
    | x => return x

def conjunction : Nat → List Text → Op (Option (Bool × List Text))
  | 0, _ => return none
  | n + 1, args => do
    match ← primary n args with
    | some (a, ['-', 'a'] :: r) =>
      match ← conjunction n r with
      | some (b, r) => return some (a && b, r)
      | none => return none
    | x => return x

def primary : Nat → List Text → Op (Option (Bool × List Text))
  | 0, _ => return none
  | n + 1, args =>
    match args with
    | [] => return some (false, [])
    | [a] => return some (!a.isEmpty, [])
    | a :: op :: b :: r =>
      if isBinary op then return (compare? op a b).map (·, r)
      else if a = ['!'] then do
        return (← primary n (op :: b :: r)).map fun x => (!x.1, x.2)
      else if a = ['('] then do
        match ← condition n (op :: b :: r) with
        | some (v, [')'] :: r) => return some (v, r)
        | _ => return none
      else if isUnary a then return some (← unary a op, b :: r)
      else return some (!a.isEmpty, op :: b :: r)
    | a :: b :: r =>
      if a = ['!'] then do
        return (← primary n (b :: r)).map fun x => (!x.1, x.2)
      else if isUnary a then return some (← unary a b, r)
      else return some (!a.isEmpty, b :: r)

end

/-- What is wrong with a condition that cannot be read. -/
def testFault (args : List Text) : Text :=
  match args with
  | [_, op, b] =>
    if isBinary op && op.head? = some '-' then
      "Illegal number: ".toList ++ if (number10? (args.headD [])).isSome then b else args.headD []
    else args.headD [] ++ ": unexpected operator".toList
  | [a, op] =>
    if isBinary op then op ++ ": argument expected".toList
    else a ++ ": unexpected operator".toList
  | _ => args.headD [] ++ ": unexpected operator".toList

/-- The status of a condition: `2` if it cannot be read. -/
def test (tool : String) (args : List Text) : Op Result := do
  match ← condition (4 * args.length + 4) args with
  | some (v, []) => return ⟨[], [], if v then 0 else 1⟩
  | _ => return { complain tool (testFault args) with status := 2 }

/-! ### Tools that read their inputs to the end -/

structure Counts where
  lines : Nat
  words : Nat
  bytes : Nat

def countWords : Bool → Text → Nat
  | _, [] => 0
  | inWord, c :: r =>
    let blank := " \t\n\x0b\x0c\r".toList.contains c
    (if !blank && !inWord then 1 else 0) + countWords (!blank) r

def counts (t : Text) : Counts := ⟨t.count '\n', countWords false t, t.length⟩

def shownCounts (fs : List Char) (c : Counts) : List Nat :=
  if fs.isEmpty then [c.lines, c.words, c.bytes]
  else
    (if fs.contains 'l' then [c.lines] else []) ++ (if fs.contains 'w' then [c.words] else []) ++
      (if fs.contains 'c' || fs.contains 'm' then [c.bytes] else [])

def countLine (w : Nat) (ns : List Nat) (name : Text) : Text :=
  [' '].intercalate (ns.map fun n => Text.padLeft w (decimal n)) ++
    (if name.isEmpty then [] else ' ' :: name) ++ ['\n']

def count (fs : List Char) (inputs : List (Text × Text)) : Text :=
  let cs := inputs.map fun x => (x.1, counts x.2)
  let sum : Counts := cs.foldl
    (fun a x => ⟨a.lines + x.2.lines, a.words + x.2.words, a.bytes + x.2.bytes⟩) ⟨0, 0, 0⟩
  let single := (shownCounts fs sum).length == 1 && cs.length == 1
  let w := if single then 1
    else if cs.any (fun x => x.1.isEmpty) then 7 else (decimal sum.bytes).length
  cs.flatMap (fun x => countLine w (shownCounts fs x.2) x.1) ++
    if cs.length > 1 then countLine w (shownCounts fs sum) "total".toList else []

/-- The first, or last, so many lines. -/
def firstLines (n : Nat) (t : Text) : Text :=
  match n, t with
  | 0, _ | _, [] => []
  | n + 1, c :: r =>
    if c == '\n' then c :: firstLines n r else c :: firstLines (n + 1) r

def lastLines (n : Nat) (t : Text) : Text :=
  let total := t.count '\n' + if t.getLast? == some '\n' || t.isEmpty then 0 else 1
  t.drop (firstLines (total - n) t).length

/-- The number behind a flag, which may stand in the same argument or in the next. -/
def countArg (letter : Char) : List Text → Option Text
  | [] => none
  | ['-', c] :: v :: r => if c == letter then some v else countArg letter (v :: r)
  | ('-' :: c :: v) :: r =>
    if c == letter then some v
    else if letter == 'n' && c.isDigit then some (c :: v)
    else countArg letter r
  | _ :: r => countArg letter r

/-- The arguments that are no flags, where some flags take a value. -/
def operands (valued : List Char) : List Text → List Text
  | [] => []
  | ['-'] :: r => ['-'] :: operands valued r
  | ['-', '-'] :: r => r
  | ['-', c] :: v :: r => if valued.contains c then operands valued r else operands valued (v :: r)
  | ('-' :: _ :: _) :: r => operands valued r
  | a :: r => a :: operands valued r

def flagLetters (args : List Text) : List Char :=
  (args.takeWhile (· != ['-', '-'])).flatMap fun a =>
    if a.length > 1 && a.head? == some '-' then a.tail else []

def search (args : List Text) (inputs : List (Text × Text)) : Result :=
  let fs := flagLetters args
  let lower (t : Text) := if fs.contains 'i' then t.map Char.toLower else t
  let wanted := lower ((countArg 'e' args).getD ((operands ['e'] args).headD []))
  let ps := if fs.contains 'F' then wanted.map fun c => Text.Piece.times (.char c) 1 (some 1)
    else Text.expression (fs.contains 'E') true wanted.length wanted
  let hit (l : Text) := Text.found (fs.contains 'x') ps (lower l) != fs.contains 'v'
  let label (n : Text) := if inputs.length > 1 then n ++ [':'] else []
  let numbered (t : Text) : List Text := (lines t).zipIdx.filterMap fun l =>
    if hit l.1 then
      some (if fs.contains 'n' then decimal (l.2 + 1) ++ ':' :: l.1 else l.1)
    else none
  let each := inputs.map fun x => (x.1, numbered x.2)
  let out :=
    if fs.contains 'q' then []
    else if fs.contains 'c' then each.flatMap fun x => label x.1 ++ decimal x.2.length ++ ['\n']
    else if fs.contains 'l' then
      (each.filter fun x => !x.2.isEmpty).flatMap fun x => x.1 ++ ['\n']
    else each.flatMap fun x => x.2.flatMap fun l => label x.1 ++ l ++ ['\n']
  ⟨out, [], if each.any (fun x => !x.2.isEmpty) then 0 else 1⟩

def dedup : List Text → List Text
  | a :: b :: r => if a = b then dedup (b :: r) else a :: dedup (b :: r)
  | r => r

def numericKey (t : Text) : Int :=
  let t := t.dropWhile (· == ' ')
  let sign := t.head? == some '-'
  let n := Shell.Expand.number ((if sign then t.tail else t).takeWhile (·.isDigit))
  if sign then -n else n

def sortLines (fs : List Char) (ls : List Text) : List Text :=
  let le (a b : Text) : Bool :=
    if fs.contains 'n' && numericKey a != numericKey b then numericKey a < numericKey b
    else Bytes.le (ofText a) (ofText b)
  let s := ls.mergeSort le
  let s := if fs.contains 'r' then s.reverse else s
  if fs.contains 'u' then dedup s else s

def ranged (a b : Char) : Text :=
  (List.range (b.toNat + 1 - a.toNat)).map fun i => Char.ofNat (a.toNat + i)

/-- The characters that a set has by name. -/
def namedSets : List (String × Text) :=
  [("[:lower:]", ranged 'a' 'z'), ("[:upper:]", ranged 'A' 'Z'), ("[:digit:]", ranged '0' '9'),
    ("[:alpha:]", ranged 'A' 'Z' ++ ranged 'a' 'z'), ("[:space:]", "\t\n\x0b\x0c\r ".toList),
    ("[:alnum:]", ranged '0' '9' ++ ranged 'A' 'Z' ++ ranged 'a' 'z')]

/-- The characters of a set, with ranges written out. -/
def charSet : Nat → Text → Text
  | 0, t => t
  | n + 1, '[' :: ':' :: r =>
    match namedSets.find? fun s => s.1.toList.isPrefixOf ('[' :: ':' :: r) with
    | some (name, cs) => cs ++ charSet n (r.drop (name.length - 2))
    | none => '[' :: ':' :: charSet n r
  | n + 1, a :: '-' :: b :: r =>
    ranged a b ++ charSet n r
  | n + 1, c :: r => c :: charSet n r
  | _, [] => []

def exchange (args : List Text) (t : Text) : Text :=
  let fs := flagLetters args
  let sets := (operands [] args).map fun s => charSet s.length (Text.unescape s.length s).1
  let from_ := sets.headD []
  if fs.contains 'd' then t.filter fun c => !from_.contains c
  else
    match sets[1]? with
    | none => t
    | some new =>
      t.map fun c => match from_.idxOf? c with
        | some i => (new[i]?).getD (new.getLastD c)
        | none => c

/-- What a tool makes of its inputs. -/
def digest (args : List Text) (inputs : List (Text × Text)) : Result :=
  let rest := args.tail
  let fs := flagLetters rest
  let body := inputs.flatMap (·.2)
  match String.ofList (args.headD []) with
  | "wc" => .ok (count fs inputs)
  | "grep" => search rest inputs
  | "sort" => .ok (unlines (sortLines fs (lines body)))
  | "uniq" =>
    let groups := (lines body).splitBy (· == ·)
    .ok (unlines (groups.map fun g =>
      (if fs.contains 'c' then Text.padLeft 7 (decimal g.length) ++ [' '] else []) ++ g.headD []))
  | "tr" => .ok (exchange rest body)
  | "tail" =>
    match countArg 'c' rest with
    | some v => .ok (body.drop (body.length - (number? v).getD 0))
    | none =>
      match countArg 'n' rest with
      | some ('+' :: v) =>
        .ok (body.drop (firstLines ((number? v).getD 1 - 1) body).length)
      | v => .ok (lastLines ((v.bind number?).getD 10) body)
  | _ => .ok body

/-! ### Starting and stepping -/

def sequence (args : List Text) : Text :=
  let ns := args.map fun a => (Text.integer? a).getD 0
  let (a, d, b) : Int × Int × Int := match ns with
    | [b] => (1, 1, b)
    | [a, b] => (a, 1, b)
    | [a, d, b] => (a, d, b)
    | _ => (1, 1, 0)
  let n : Nat := if d = 0 then 0 else if 0 < d then ((b - a) / d + 1).toNat
    else ((a - b) / (-d) + 1).toNat
  unlines ((List.range n).map fun (i : Nat) => (toString (a + d * i)).toList)

/-- How long a text asks to sleep, in millionths of a second. -/
def duration? (t : Text) : Option Nat :=
  if t = "infinity".toList || t = "inf".toList then some 0x100000000000000000000
  else
    let whole := t.takeWhile (·.isDigit)
    let r := t.drop whole.length
    let (part, r) := match r with
      | '.' :: r => (r.takeWhile Char.isDigit, r.dropWhile Char.isDigit)
      | r => ([], r)
    let unit := match r with
      | [] | ['s'] => 1
      | ['m'] => 60
      | ['h'] => 3600
      | ['d'] => 86400
      | _ => 0
    if (whole.isEmpty && part.isEmpty) || unit = 0 then none
    else
      let micro := Shell.Expand.number ((part ++ List.replicate 6 '0').take 6)
      some ((Shell.Expand.number whole * 1000000 + micro) * unit)

def environment : Op Text := do
  return unlines ((← proc).env.map fun v => v.1 ++ '=' :: v.2)

def finished (r : Result) : Tool := .say r.out r.err r.status

def tryHelp (tool : String) : Text := ("Try '" ++ tool ++ " --help' for more information.").toList

/-- Whether a name is that of a tool. -/
def which (name : Text) : Op Result := do
  match ← spotOf true ("/usr/bin/".toList ++ name) with
  | .ok (_, some (.file _)) => return .ok ("/usr/bin/".toList ++ name ++ ['\n'])
  | _ => return ⟨[], [], 1⟩

/-- The value of a sum or comparison that is given as three arguments, or of a single one. -/
def calculate (args : List Text) : Result :=
  let tell (t : Text) : Result :=
    ⟨t ++ ['\n'], [], if t.isEmpty ∨ t = ['0'] then 1 else 0⟩
  match args with
  | [a] => tell a
  | [a, op, b] =>
    let op := String.ofList op
    match number10? a, number10? b with
    | some x, some y =>
      match Shell.Sum.apply (if op == "=" then "==" else op) x y with
      | some v => tell (toString v).toList
      | none => { complain "expr" "division by zero".toList with status := 2 }
    | _, _ =>
      if op == "=" then tell [if a = b then '1' else '0']
      else if op == "!=" then tell [if a = b then '0' else '1']
      else { complain "expr" "non-integer argument".toList with status := 2 }
  | _ => { complain "expr" "syntax error".toList with status := 2 }

/-- Empties a file that is to be written, unless it is to be added to. -/
def startTee (fs : List Char) (path : Text) : Op Result := do
  match ← Op.openPath (if fs.contains 'a' then .append else .write) path with
  | .ok _ => return .ok []
  | .error e => return complain "tee" (path ++ ": ".toList ++ e.text.toList)

/-- Writes a text to the end of each of some files. -/
def addTo (paths : List Text) (t : Text) : Op Unit := do
  for path in paths do
    match ← spotOf true path with
    | .ok (_, some (.file id)) => onDisk fun d => d.setContent id (d.content id ++ ofText t)
    | _ => pure ()

/-- A tool with its arguments, the first of which is its name. -/
def launch (args : List Text) : Op Tool := do
  let rest := args.tail
  let name := String.ofList (args.headD [])
  let (fs, ops) := flags rest
  let inputsOf (ops : List Text) : List Text := if ops.isEmpty then [['-']] else ops
  match name with
  | "true" => return .say [] [] 0
  | "false" => return .say [] [] 1
  | "echo" => return .say (Text.plainEcho true false rest) [] 0
  | "printf" => return .say (Text.format (rest.length + 1) (rest.headD []) rest.tail) [] 0
  | "pwd" => return .say ((← workingDir) ++ ['\n']) [] 0
  | "yes" => return .repeats ([' '].intercalate (if rest.isEmpty then [['y']] else rest) ++ ['\n'])
  | "seq" => return .say (sequence rest) [] 0
  | "env" => return .say (← environment) [] 0
  | "basename" => return .say (baseNameOf ops ++ ['\n']) [] 0
  | "dirname" => return .say (ops.flatMap fun a => dirName a ++ ['\n']) [] 0
  | "rm" =>
    if ops.isEmpty && !fs.contains 'f' then
      return finished (complain "rm" "missing operand".toList)
    else return finished (← forAll (remove fs) ops)
  | "mkdir" => return finished (← forAll (makeDir fs) ops)
  | "rmdir" => return finished (← forAll removeDir ops)
  | "touch" => return finished (← forAll touch ops)
  | "mv" => return finished (← toLast "mv" moveTo ops)
  | "cp" => return finished (← toLast "cp" (copyTo fs) ops)
  | "ln" => return finished (← toLast "ln" (link fs) ops)
  | "ls" => return finished (← list fs ops)
  | "chmod" => return finished (← forAll (setMode (rest.headD [])) rest.tail)
  | "test" => return finished (← test name rest)
  | "[" => return finished (← test name rest.dropLast)
  | "uname" => return .say "Linux\n".toList [] 0
  | "which" => return finished (← forAll which ops)
  | "expr" => return finished (calculate rest)
  | "tee" =>
    let r ← forAll (startTee fs) ops
    return if r.err.isEmpty then .gather args [['-']] false [] [] [] else finished r
  | "sleep" =>
    if rest.isEmpty then
      return finished (complain "sleep" ("missing operand\n".toList ++ tryHelp "sleep"))
    match rest.mapM duration? with
    | some ds => return .sleep ((← proc).clock + (← get).cost + ds.foldr (· + ·) 0)
    | none =>
      let bad := (rest.find? fun a => (duration? a).isNone).getD []
      return finished (complain "sleep"
        ("invalid time interval ".toList ++ curly bad ++ '\n' :: tryHelp "sleep"))
  | "cat" => return .copy (args.headD []) (inputsOf ops) false none 0
  | "head" =>
    match countArg 'c' rest with
    | some v =>
      return .copy (args.headD []) (inputsOf (operands ['c', 'n'] rest)) false (number? v) 0
    | none =>
      let n := ((countArg 'n' rest).bind number?).getD 10
      return .copyLines (args.headD []) (inputsOf (operands ['c', 'n'] rest)) false n 0
  | "tail" => return .gather args (inputsOf (operands ['c', 'n'] rest)) false [] [] []
  | "grep" =>
    let ops := operands ['e'] rest
    let files := if (countArg 'e' rest).isSome then ops else ops.tail
    return .gather args (inputsOf files) false [] [] []
  | "tr" => return .gather args [['-']] false [] [] []
  | "wc" | "sort" | "uniq" => return .gather args (inputsOf ops) false [] [] []
  | _ => return .say [] [] 0

/-- The number of the file that a tool opens for its inputs. -/
def inputFd (path : Text) : Nat := if path = ['-'] then 0 else 3

def chunk : Nat := 8192

/-- Opens the next input, if it can be. -/
def openInput (path : Text) : Op (Except Errno Unit) := do
  if path = ['-'] then return .ok ()
  else
    match ← Op.openPath .read path with
    | .error e => return .error e
    | .ok d =>
      Op.openFd 3 d
      return .ok ()

def become (t : Tool) : Op Unit := onProc fun p => { p with program := .tool t }

def sayError (name path : Text) (e : Errno) : Text :=
  name ++ ": ".toList ++ path ++ ": ".toList ++ e.text.toList ++ ['\n']

/-- One step of a tool. -/
def step (t : Tool) : Op Unit := do
  match t with
  | .sleep wakeAt =>
    let p ← proc
    if wakeAt ≤ p.clock then Op.finish (.code 0)
    else modify fun t => { t with cost := wakeAt - p.clock }
  | .say out err status =>
    if !out.isEmpty then
      match ← Op.write 1 (ofText out) with
      | .ok () => become (.say [] err status)
      | .error _ => become (.say [] err (max status 1))
    else if !err.isEmpty then
      let _ ← Op.write 2 (ofText err)
      become (.say [] [] status)
    else Op.finish (.code status)
  | .copy _ [] _ _ status => Op.finish (.code status)
  | .copy _ _ _ (some 0) status => Op.finish (.code status)
  | .copy name (i :: is) false limit status =>
    match ← openInput i with
    | .ok () => become (.copy name (i :: is) true limit status)
    | .error e =>
      let _ ← Op.write 2 (ofText (sayError name i e))
      become (.copy name is false limit 1)
  | .copy name (i :: is) true limit status =>
    match ← Op.read (inputFd i) (min chunk (limit.getD chunk)) with
    | .error e =>
      let _ ← Op.write 2 (ofText (sayError name i e))
      become (.copy name is false limit 1)
    | .ok [] => become (.copy name is false limit status)
    | .ok bs =>
      match ← Op.write 1 bs with
      | .ok () => become (.copy name (i :: is) true (limit.map (· - bs.length)) status)
      | .error _ => Op.finish (.code 1)
  | .copyLines _ [] _ _ status => Op.finish (.code status)
  | .copyLines _ _ _ 0 status => Op.finish (.code status)
  | .copyLines name (i :: is) false left status =>
    match ← openInput i with
    | .ok () => become (.copyLines name (i :: is) true left status)
    | .error e =>
      let _ ← Op.write 2 (ofText (sayError name i e))
      become (.copyLines name is false left 1)
  | .copyLines name (i :: is) true left status =>
    match ← Op.read (inputFd i) chunk with
    | .error e =>
      let _ ← Op.write 2 (ofText (sayError name i e))
      become (.copyLines name is false left 1)
    | .ok [] => become (.copyLines name is false left status)
    | .ok bs =>
      let top := firstLines left (toText bs)
      match ← Op.write 1 (ofText top) with
      | .ok () => become (.copyLines name (i :: is) true (left - top.count '\n') status)
      | .error _ => Op.finish (.code 1)
  | .gather args [] _ _ got err =>
    let r := digest args got
    if args.headD [] = "tee".toList then addTo (flags args.tail).2 r.out
    let bad := if args.headD [] = "grep".toList then 2 else 1
    become (.say r.out (err ++ r.err) (if err.isEmpty then r.status else max r.status bad))
  | .gather args (i :: is) false now got err =>
    match ← openInput i with
    | .ok () => become (.gather args (i :: is) true [] got err)
    | .error e => become (.gather args is false now got (err ++ sayError (args.headD []) i e))
  | .gather args (i :: is) true now got err =>
    match ← Op.read (inputFd i) chunk with
    | .error e => become (.gather args is false [] got (err ++ sayError (args.headD []) i e))
    | .ok [] =>
      let label := if i = ['-'] then [] else i
      become (.gather args is false [] (got ++ [(label, now)]) err)
    | .ok bs => become (.gather args (i :: is) true (now ++ toText bs) got err)
  | .repeats line =>
    match ← Op.write 1 ((List.replicate 64 (ofText line)).flatten) with
    | .ok () => return
    | .error _ => Op.finish (.code 1)

end ExampleSuite.Machine.Tool
