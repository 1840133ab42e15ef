import ExampleSuite.Proofs.Interrupts
import ExampleSuite.Proofs.Watching

/-!
A system whose answers are settled beforehand.

A script says for each example whether it can be started, what will be seen of it, and whether
an interrupt comes while it ends. The system plays it, and keeps the promises about children. If no
interrupt is in the script and no child gets lost, none comes and none is, whatever is run.
-/

namespace ExampleSuite

/-- What will be seen of a child, in order, and whether an interrupt comes with its exit. -/
structure Scene where
  sights : List Sight
  pressed : Bool

/-- How the children go, by their examples, and how far the child started last has come. -/
structure Script where
  disk : Disk
  scene : Path → Except Cause Scene
  left : Scene
  ended : Option Status
  pending : Bool

namespace Script

/-- The script before the first child. -/
def ready (disk : Disk) (scene : Path → Except Cause Scene) : Script :=
  ⟨disk, scene, ⟨[], false⟩, none, false⟩

def start (c : Path) (a : Script) : Script × Except Cause Nat :=
  match a.scene c with
  | .ok s => ({ a with left := s, ended := none }, .ok 1)
  | .error cause => (a, .error cause)

/-- The next sight. What has been seen already is not seen again. -/
def next (w : Watch) (a : Script) : Script × Event w :=
  match a.left.sights with
  | [] => (a, .elapsed)
  | x :: xs =>
    let b := { a with left := { a.left with sights := xs } }
    match x with
    | .exited s =>
      if new : w.status = none then
        ({ b with ended := some s, pending := a.pending || a.left.pressed }, .exited s new)
      else (b, .elapsed)
    | .lost cause => if new : w.status = none then (b, .lost cause new) else (b, .elapsed)
    | .outClosed n => if new : w.out = none then (b, .outClosed n new) else (b, .elapsed)
    | .errClosed n => if new : w.err = none then (b, .errClosed n new) else (b, .elapsed)
    | .elapsed => (b, .elapsed)
    | .interrupted => (b, .interrupted)

/-- Killing a child that has been waited for fails. -/
def kill (a : Script) : Script × Except Cause Unit :=
  match a.ended with
  | some _ => (a, .error (.other "invalid argument: can't kill an exited process"))
  | none => ({ a with ended := some (.signal 9) }, .ok ())

def host (cwd : Place) : Host Script where
  disk := disk
  cwd := cwd
  listen := id
  start _ c _ := start c
  next := next
  kill := kill
  poll a := (a, .ok a.ended)
  check a := ({ a with pending := false }, a.pending)

/-- The child started last has been waited for. -/
def Waited (a : Script) : Prop := a.ended.isSome

/-- The next sight is the exit of the child, after which it has been waited for, or it leaves
what is known of its end. -/
lemma next_cases (w : Watch) (a : Script) :
    (∃ s new, (next w a).2 = .exited s new ∧ (next w a).1.ended = some s) ∨
      ((∀ s new, (next w a).2 ≠ .exited s new) ∧ (next w a).1.ended = a.ended) := by
  unfold next
  rcases a.left.sights with _ | ⟨s | _ | n | n | _ | _, xs⟩
  · exact .inr ⟨nofun, rfl⟩
  · by_cases new : w.status = none
    · exact .inl ⟨s, new, by simp [new]⟩
    · exact .inr (by simp [new])
  · by_cases new : w.status = none <;> exact .inr (by simp [new])
  · by_cases new : w.out = none <;> exact .inr (by simp [new])
  · by_cases new : w.err = none <;> exact .inr (by simp [new])
  · exact .inr ⟨nofun, rfl⟩
  · exact .inr ⟨nofun, rfl⟩

theorem host_reaps (cwd : Place) : (host cwd).Reaps (fun _ => True) Waited where
  listen _ := trivial
  start _ _ _ _ _ := trivial
  next _ _ _ := trivial
  kill _ := trivial
  poll _ := trivial
  check _ := trivial
  fresh {p c n pid a} _ hs := by
    change (start c a).2 = _ at hs
    show ¬ (start c a).1.ended.isSome
    unfold start at hs ⊢
    cases hc : a.scene c with
    | ok x => simp
    | error cause => rw [hc] at hs; cases hs
  exited {w s new a} _ hx := by
    show (next w a).1.ended.isSome
    rcases next_cases w a with ⟨s', _, _, he⟩ | ⟨hne, _⟩
    · rw [he]; rfl
    · exact absurd hx (hne s new)
  unmoved {w a} _ hx := by
    show (next w a).1.ended.isSome ↔ a.ended.isSome
    rcases next_cases w a with ⟨s, new, he, _⟩ | ⟨_, he⟩
    · exact absurd he (hx s new)
    · rw [he]
  killed {a} _ hw := by
    rw [Waited, Option.not_isSome_iff_eq_none] at hw
    show (kill a).2 = _
    rw [kill, hw]
  kept {a} _ hw := by
    obtain ⟨s, hs⟩ := Option.isSome_iff_exists.mp hw
    show (kill a).1.ended.isSome
    rw [kill, hs]
    exact hw
  polled {a} _ hw := by
    obtain ⟨s, hs⟩ := Option.isSome_iff_exists.mp hw
    exact ⟨s, congrArg Except.ok hs⟩

/-- What the next sight leaves alone, and where it comes from if it is not that time is up. -/
lemma next_leaves (w : Watch) (a : Script) :
    (next w a).1.disk = a.disk ∧ (next w a).1.scene = a.scene ∧
      (next w a).1.left.pressed = a.left.pressed ∧
      (∀ x ∈ (next w a).1.left.sights, x ∈ a.left.sights) ∧
      ((next w a).1.pending = a.pending ∨
        (next w a).1.pending = (a.pending || a.left.pressed)) ∧
      ((next w a).2.sight ≠ .elapsed → (next w a).2.sight ∈ a.left.sights) := by
  unfold next
  rcases hl : a.left.sights with _ | ⟨s | _ | n | n | _ | _, xs⟩
  · simp [hl, Event.sight]
  · by_cases new : w.status = none <;> simp +contextual [new, Event.sight]
  · by_cases new : w.status = none <;> simp +contextual [new, Event.sight]
  · by_cases new : w.out = none <;> simp +contextual [new, Event.sight]
  · by_cases new : w.err = none <;> simp +contextual [new, Event.sight]
  · simp +contextual [Event.sight]
  · simp +contextual [Event.sight]

/-- The system keeps an interrupt until it is asked for. -/
lemma host_queues (cwd : Place) : (host cwd).Queues (fun _ => True) (·.pending) where
  next w a _ hp := by
    obtain ⟨-, -, -, -, hpending, -⟩ := next_leaves w a
    refine .inr ?_
    show (next w a).1.pending
    rcases hpending with he | he <;> simp [he, hp]
  kill {a} _ hp := by
    show (kill a).1.pending
    unfold kill
    split <;> exact hp
  poll _ hp := hp
  check _ hp := hp

/-- No interrupt comes while the child is watched or ends, and the child is not lost. -/
structure Calm (x : Scene) : Prop where
  free : Sight.interrupted ∉ x.sights
  kept : ∀ cause, Sight.lost cause ∉ x.sights
  unpressed : x.pressed = false

/-- Every child can be started and goes calmly, and no interrupt is left from before. The disk stays
as it is. -/
structure Quiet (disk : Disk) (scene : Path → Scene) (a : Script) : Prop where
  disk : a.disk = disk
  scene : a.scene = fun c => .ok (scene c)
  left : Calm a.left
  pending : a.pending = false

lemma quiet_ready (disk : Disk) (scene : Path → Scene) :
    Quiet disk scene (.ready disk fun c => .ok (scene c)) :=
  ⟨rfl, rfl, ⟨List.not_mem_nil, fun _ => List.not_mem_nil, rfl⟩, rfl⟩

/-- The call is answered calmly, no child has been lost by then, and the disk is as it was. -/
def Uneventful (disk : Disk) (m : Moment Script) : Prop :=
  m.call.Calm ∧ (∀ cause, m.call ≠ .saw (.lost cause)) ∧ m.state.disk = disk

section

variable {disk : Disk} {scene : Path → Scene} (cwd : Place) (hscene : ∀ c, Calm (scene c))
include hscene

lemma quiet_closed : (host cwd).Closed (Quiet disk scene) where
  listen ha := ha
  start p c n a ha := by
    have hs : (host cwd).start p c n a = ({ a with left := scene c, ended := none }, .ok 1) := by
      show start c a = _
      rw [start, ha.scene]
    rw [hs]
    exact ⟨ha.disk, ha.scene, hscene c, ha.pending⟩
  next w a ha := by
    obtain ⟨hd, hc, hp, hs, hq, -⟩ := next_leaves w a
    refine ⟨hd.trans ha.disk, hc.trans ha.scene, ⟨fun hi => ha.left.free (hs _ hi),
      fun cause hi => ha.left.kept cause (hs _ hi), hp.trans ha.left.unpressed⟩, ?_⟩
    rw [ha.left.unpressed, ha.pending] at hq
    exact hq.elim id id
  kill {a} ha := by
    show Quiet disk scene (kill a).1
    unfold kill
    split
    · exact ha
    · exact ⟨ha.disk, ha.scene, ha.left, ha.pending⟩
  poll ha := ha
  check ha := ⟨ha.disk, ha.scene, ha.left, rfl⟩

lemma quiet_reaps : (host cwd).Reaps (Quiet disk scene) Waited :=
  (host_reaps cwd).of_closed (quiet_closed cwd hscene) fun _ _ => trivial

/-- Whatever is asked, nothing happens but what has been settled for the children. -/
lemma quiet_logged : (host cwd).logged.Closed fun a =>
    Quiet disk scene a.1 ∧ ∀ m ∈ a.2, Uneventful disk m where
  listen {a} ha := ⟨(quiet_closed cwd hscene).listen ha.1,
    @Host.note_all _ Unit _ (fun _ => .listened) (fun b => (b, ())) _ ha.2
      ⟨trivial, nofun, ha.1.disk⟩⟩
  start p c n a ha := by
    have hq := (quiet_closed cwd hscene).start p c n ha.1
    have hs : ((host cwd).start p c n a.1).2 = .ok 1 := by
      show (start c a.1).2 = _
      rw [start, ha.1.scene]
    refine ⟨hq, Host.note_all ha.2 ⟨?_, nofun, hq.disk⟩⟩
    rw [hs]
    trivial
  next w a ha := by
    have hq := (quiet_closed cwd hscene).next w ha.1
    obtain ⟨-, -, -, -, -, hx⟩ := next_leaves w a.1
    refine ⟨hq, Host.note_all ha.2 ⟨?_, fun cause he => ?_, hq.disk⟩⟩
    · cases he : ((host cwd).next w a.1).2.sight with
      | interrupted => exact absurd (he ▸ hx (he ▸ nofun)) ha.1.left.free
      | _ => trivial
    · have he := Call.saw.inj he
      exact ha.1.left.kept cause (he ▸ hx (he ▸ nofun))
  kill ha := ⟨(quiet_closed cwd hscene).kill ha.1,
    Host.note_all ha.2 ⟨trivial, nofun, ((quiet_closed cwd hscene).kill ha.1).disk⟩⟩
  poll ha := ⟨(quiet_closed cwd hscene).poll ha.1, Host.note_all ha.2 ⟨trivial, nofun, ha.1.disk⟩⟩
  check {a} ha := by
    refine ⟨(quiet_closed cwd hscene).check ha.1, Host.note_all ha.2 ⟨?_, nofun, ha.1.disk⟩⟩
    rw [show ((host cwd).check a.1).2 = false from ha.1.pending]
    trivial

end

/-! ### Little corpora -/

/-- One example in a directory. -/
def disk₁ : Disk where
  tree := (Tree.empty.put [Bytes.ofString "examples"] .dir).put
    [Bytes.ofString "examples", Bytes.ofString "a.franz"] (.file 0)
  files := #[]

def config₁ : Config :=
  ⟨Bytes.ofString "examples", "franz", ⟨Bytes.ofString "franz", 10000⟩, .none⟩

/-- Six examples, and a seventh in a directory that must not be listed. -/
def disk₆ : Disk where
  tree := ["a", "b", "c", "d", "e", "f", "x/g"].foldl
    (fun t s => t.put (Path.steps (Bytes.ofString ("examples/" ++ s ++ ".franz"))) (.file 0))
    (((Tree.empty.put [Bytes.ofString "examples"] .dir).put
      [Bytes.ofString "examples", Bytes.ofString "x"] .dir).bar
      [Bytes.ofString "examples", Bytes.ofString "x"])
  files := #[]

/-- The fifth example is left out by its name and the sixth by a part of its path. -/
def config₆ : Config := { config₁ with rules := .ofLists ["e.franz"] ["s/f"] }

/-- One child exits with another code than `0`, one is killed by a signal, one runs out of time. All
others pass. -/
def scene₆ (p : Path) : Scene :=
  if p = Bytes.ofString "examples/b.franz" then
    ⟨[.outClosed 0, .exited (.code 3), .errClosed 0], false⟩
  else if p = Bytes.ofString "examples/c.franz" then
    ⟨[.exited (.signal 9), .errClosed 0, .outClosed 0], false⟩
  else if p = Bytes.ofString "examples/d.franz" then ⟨[.errClosed 0, .elapsed], false⟩
  else ⟨[.exited (.code 0), .outClosed 0, .errClosed 0], false⟩

/-- The script of the six examples. -/
def mixed : Script := .ready disk₆ fun p => .ok (scene₆ p)

lemma scene₆_calm (p : Path) : Calm (scene₆ p) := by
  unfold scene₆
  split_ifs <;> exact ⟨by simp, by simp, rfl⟩

end Script

end ExampleSuite
