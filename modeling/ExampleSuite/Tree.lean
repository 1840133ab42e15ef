import ExampleSuite.Errno
import ExampleSuite.Path

/-!
A tree of names.

Each place below the top is a list of names and holds at most one entry: a directory, a file,
a link or a device. A directory may be barred from being listed. A path leads to a place by one
step for each of its parts, where a link on the way is replaced by its target. At most forty
links may be met.
-/

namespace ExampleSuite

/-- The names from the top down to an entry. -/
abbrev Place := List Bytes

inductive Device where
  | null
  | zero
  deriving DecidableEq, Repr

inductive Entry where
  | dir
  /-- A file, by the number of its contents. -/
  | file (id : Nat)
  | link (target : Path)
  | device (d : Device)
  deriving DecidableEq, Repr

structure Tree where
  entries : List (Place × Entry)
  distinct : (entries.map (·.1)).Nodup
  /-- The directories that must not be listed. -/
  barred : List Place

namespace Tree

def empty : Tree := ⟨[], .nil, []⟩

/-- What is at a place. The top is always a directory. -/
def get (t : Tree) (p : Place) : Option Entry :=
  if p = [] then some .dir else t.entries.lookup p

theorem distinct_filter (t : Tree) (f : Place × Entry → Bool) :
    ((t.entries.filter f).map (·.1)).Nodup :=
  (List.filter_sublist.map _).nodup t.distinct

/-- The tree without a place and all that lies below it. -/
def remove (t : Tree) (p : Place) : Tree :=
  ⟨t.entries.filter fun x => !p.isPrefixOf x.1, t.distinct_filter _,
    t.barred.filter fun q => !p.isPrefixOf q⟩

/-- The tree with an entry put at a place. -/
def put (t : Tree) (p : Place) (e : Entry) : Tree where
  entries := t.entries.filter (fun x => x.1 != p) ++ [(p, e)]
  distinct := by
    rw [List.map_append, List.nodup_append]
    refine ⟨t.distinct_filter _, by simp, ?_⟩
    intro a ha b hb hab
    simp only [List.map_cons, List.map_nil, List.mem_singleton] at hb
    obtain ⟨x, hx, rfl⟩ := List.mem_map.1 ha
    have := (List.mem_filter.1 hx).2
    simp [hab, hb] at this
  barred := t.barred.filter (· != p)

/-- The tree with a place barred from being listed. -/
def bar (t : Tree) (p : Place) : Tree := { t with barred := p :: t.barred }

/-- What lies below a place is put below another. -/
def move (t : Tree) (src dst : Place) : Tree :=
  let moved (p : Place) : Place := dst ++ p.drop src.length
  let u := t.entries.foldl
    (fun s x => if src.isPrefixOf x.1 then s.put (moved x.1) x.2 else s)
    ((t.remove dst).remove src)
  { u with barred := u.barred ++ (t.barred.filter src.isPrefixOf).map moved }

/-- The name of a place within a directory, if it lies right below. -/
def nameIn : Place → Place → Option Bytes
  | [], [n] => some n
  | a :: as, b :: bs => if a = b then nameIn as bs else none
  | _, _ => none

/-- What lies right below a place, in the order of its making. -/
def below (t : Tree) (p : Place) : List (Bytes × Entry) :=
  t.entries.filterMap fun x => (nameIn p x.1).map (·, x.2)

/-! ### Paths -/

/-- The longest name and the longest path. -/
def nameMax : Nat := 255
def pathMax : Nat := 4095

def maxLinks : Nat := 40

/-- The steps of a path. One that ends in a slash ends with a step that stays where it is. -/
def route (p : Path) : List Bytes :=
  let parts := Bytes.splitOn Path.slash p
  parts.filter (· != []) ++
    (if p ≠ [] ∧ parts.getLast? = some [] then [Path.here] else [])

def start (cwd : Place) (p : Path) : Place := if Path.isAbsolute p then [] else cwd

/-- A place that a path leads to, and its entry. Only the last step may lead nowhere. -/
abbrev Spot := Place × Option Entry

/-- Takes the steps from a place on. A link in the way, or at the end if it is to be followed,
is handed on with the steps that remain. -/
def advance (t : Tree) (follow : Bool)
    (onLink : Place → List Bytes → Except Errno Spot) :
    Place → List Bytes → Except Errno Spot
  | p, [] => .ok (p, t.get p)
  | p, s :: ss =>
    match t.get p with
    | none => .error .noEntry
    | some .dir =>
      if s = Path.here then advance t follow onLink p ss
      else if s = Path.up then advance t follow onLink p.dropLast ss
      else if nameMax < s.length then .error .tooLong
      else
        match t.get (p ++ [s]) with
        | none => if ss = [] then .ok (p ++ [s], none) else .error .noEntry
        | some (.link target) =>
          if ss = [] ∧ follow = false then .ok (p ++ [s], some (.link target))
          else onLink (start p target) (route target ++ ss)
        | some _ => advance t follow onLink (p ++ [s]) ss
    | some _ => .error .notDir

/-- Takes the steps from a place on, meeting no more links than given. -/
def trace (t : Tree) (follow : Bool) : Nat → Place → List Bytes → Except Errno Spot
  | 0 => advance t follow fun _ _ => .error .loop
  | n + 1 => advance t follow (trace t follow n)

/-- Where a path leads from a directory. -/
def locate (t : Tree) (cwd : Place) (follow : Bool) (p : Path) : Except Errno Spot :=
  if p = [] then .error .noEntry
  else if pathMax < p.length then .error .tooLong
  else trace t follow maxLinks (start cwd p) (route p)

/-- The entry that a path leads to. -/
def find (t : Tree) (cwd : Place) (follow : Bool) (p : Path) : Except Errno (Place × Entry) :=
  match t.locate cwd follow p with
  | .error e => .error e
  | .ok (_, none) => .error .noEntry
  | .ok (q, some e) => .ok (q, e)

def isFile (t : Tree) (cwd : Place) (p : Path) : Bool :=
  match t.find cwd true p with
  | .ok (_, .file _) => true
  | _ => false

def isDir (t : Tree) (cwd : Place) (p : Path) : Bool :=
  match t.find cwd true p with
  | .ok (_, .dir) => true
  | _ => false

/-- What a directory holds, unless it is barred. -/
def list (t : Tree) (cwd : Place) (p : Path) : Except Errno (List (Bytes × Entry)) :=
  match t.find cwd true p with
  | .error e => .error e
  | .ok (q, .dir) => if q ∈ t.barred then .error .denied else .ok (t.below q)
  | .ok _ => .error .notDir

end Tree

end ExampleSuite
