import ExampleSuite.Proofs.Simulation

/-!
What a run asks of the system around it.

A system can be made to keep a log of the calls to it, each with the answer that it gave and
the state that it was left in. A run does not notice: it ends the same way with the log or
without.
-/

namespace ExampleSuite

variable {σ α : Type}

/-- What can be seen of a child, whatever has been seen of it before. -/
inductive Sight where
  | exited (s : Status)
  | lost (cause : Cause)
  | outClosed (n : Nat)
  | errClosed (n : Nat)
  | elapsed
  | interrupted
  deriving DecidableEq, Repr

def Event.sight {w : Watch} : Event w → Sight
  | .exited s _ => .exited s
  | .lost cause _ => .lost cause
  | .outClosed n _ => .outClosed n
  | .errClosed n _ => .errClosed n
  | .elapsed => .elapsed
  | .interrupted => .interrupted

/-- A call to the system, with its answer. -/
inductive Call where
  | listened
  | started (program arg : Path) (budget : Nat) (answer : Except Cause Nat)
  | saw (what : Sight)
  | killed (answer : Except Cause Unit)
  | polled (answer : Except Cause (Option Status))
  | checked (pending : Bool)
  deriving DecidableEq

/-- The call neither failed to start a child nor found an interrupt. -/
def Call.Calm : Call → Prop
  | .started _ _ _ (.error _) | .saw .interrupted | .checked true => False
  | _ => True

/-- No child is lost: waiting for one never fails. -/
def Tracked (ks : List Call) : Prop := ∀ cause, .saw (.lost cause) ∉ ks

lemma Tracked.of_subset {ks ls : List Call} (h : Tracked ls) (hks : ks ⊆ ls) : Tracked ks :=
  fun cause hk => h cause (hks hk)

instance (ks : List Call) : Decidable (Tracked ks) :=
  decidable_of_iff (ks.all fun k => match k with | .saw (.lost _) => false | _ => true) <| by
    rw [List.all_eq_true]
    refine ⟨fun h cause hk => Bool.noConfusion (h _ hk), fun h k hk => ?_⟩
    split
    · exact absurd hk (h _)
    · rfl

/-- What has been seen of children, in order. -/
def sights (ks : List Call) : List Sight :=
  ks.filterMap fun k => match k with
    | .saw x => some x
    | _ => none

@[simp] lemma sights_nil : sights [] = [] := rfl

@[simp] lemma sights_append (ks ls : List Call) : sights (ks ++ ls) = sights ks ++ sights ls :=
  List.filterMap_append

@[simp] lemma sights_saw (x : Sight) (ks : List Call) :
    sights (.saw x :: ks) = x :: sights ks := rfl

@[simp] lemma sights_map_saw (es : List Sight) : sights (es.map .saw) = es := by
  induction es with
  | nil => rfl
  | cons x es ih => rw [List.map_cons, sights_saw, ih]

/-- A call and the state that the system was left in. -/
structure Moment (σ : Type) where
  call : Call
  state : σ

/-- The states of a system together with the log of the calls to it. -/
abbrev Logged (σ : Type) := σ × List (Moment σ)

namespace Host

/-- Answers as before, and adds to the log. -/
def note (call : α → Call) (f : σ → σ × α) (s : Logged σ) : Logged σ × α :=
  let r := f s.1
  ((r.1, s.2 ++ [⟨call r.2, r.1⟩]), r.2)

/-- What holds of all moments so far and of the next holds of all moments after it. -/
lemma note_all {Q : Moment σ → Prop} {call : α → Call} {f : σ → σ × α} {a : Logged σ}
    (hall : ∀ m ∈ a.2, Q m) (hnext : Q ⟨call (f a.1).2, (f a.1).1⟩) :
    ∀ m ∈ (note call f a).1.2, Q m := by
  intro m hm
  rcases List.mem_append.mp hm with hm | hm
  · exact hall m hm
  · obtain rfl := List.mem_singleton.mp hm
    exact hnext

/-- The system with a log. -/
def logged (h : Host σ) : Host (Logged σ) where
  disk s := h.disk s.1
  cwd := h.cwd
  listen s := (note (fun _ => .listened) (fun a => (h.listen a, ())) s).1
  start p c n := note (.started p c n) (h.start p c n)
  next w := note (fun e => .saw e.sight) (h.next w)
  kill := note .killed h.kill
  poll := note .polled h.poll
  check := note .checked h.check

section

variable (h : Host σ) (a : Logged σ)

@[simp] lemma disk_logged : h.logged.disk a = h.disk a.1 := rfl
@[simp] lemma start_logged (p c : Path) (n : Nat) :
    (h.logged.start p c n a).2 = (h.start p c n a.1).2 := rfl
@[simp] lemma next_logged (w : Watch) : (h.logged.next w a).2 = (h.next w a.1).2 := rfl
@[simp] lemma kill_logged : (h.logged.kill a).2 = (h.kill a.1).2 := rfl
@[simp] lemma poll_logged : (h.logged.poll a).2 = (h.poll a.1).2 := rfl
@[simp] lemma check_logged : (h.logged.check a).2 = (h.check a.1).2 := rfl

end

/-- A log changes nothing of what a system does. -/
theorem logged_agree (h : Host σ) : h.logged.Agree (fun a b => a.1 = b) h where
  cwd := rfl
  disk hab := congrArg h.disk hab
  listen hab := congrArg h.listen hab
  start p c n {a b} hab := by subst hab; exact ⟨rfl, rfl⟩
  next w {a b} hab := by subst hab; exact ⟨rfl, rfl⟩
  kill {a b} hab := by subst hab; exact ⟨rfl, rfl⟩
  poll {a b} hab := by subst hab; exact ⟨rfl, rfl⟩
  check {a b} hab := by subst hab; exact ⟨rfl, rfl⟩

lemma Closed.logged {h : Host σ} {P : σ → Prop} (H : h.Closed P) :
    h.logged.Closed fun a => P a.1 where
  listen ha := H.listen ha
  start p c n _ ha := H.start p c n ha
  next w _ ha := H.next w ha
  kill ha := H.kill ha
  poll ha := H.poll ha
  check ha := H.check ha

/-- A log only grows. -/
lemma logged_grows (h : Host σ) (ms : List (Moment σ)) : h.logged.Closed fun a => ms <+: a.2 where
  listen ha := ha.trans (List.prefix_append _ _)
  start _ _ _ _ ha := ha.trans (List.prefix_append _ _)
  next _ _ ha := ha.trans (List.prefix_append _ _)
  kill ha := ha.trans (List.prefix_append _ _)
  poll ha := ha.trans (List.prefix_append _ _)
  check ha := ha.trans (List.prefix_append _ _)

/-- The system is in the state that its last call has left it in. -/
def Current (a : Logged σ) : Prop := ∃ m ∈ a.2, m.state = a.1

lemma current_note (call : α → Call) (f : σ → σ × α) (a : Logged σ) :
    Current (note call f a).1 := ⟨_, List.mem_append_right _ List.mem_cons_self, rfl⟩

lemma logged_current (h : Host σ) : h.logged.Closed Current where
  listen _ := current_note (fun _ : Unit => .listened) (fun b => (h.listen b, ())) _
  start p c n _ _ := current_note (.started p c n) (h.start p c n) _
  next w _ _ := current_note (fun e : Event w => .saw e.sight) (h.next w) _
  kill _ := current_note .killed h.kill _
  poll _ := current_note .polled h.poll _
  check _ := current_note .checked h.check _

end Host

namespace Session

/-- The session with an empty log. -/
def logged (s : Session σ) : Session (Logged σ) := { s with world := (s.world, []) }

def log (s : Session (Logged σ)) : List (Moment σ) := s.world.2

def calls (s : Session (Logged σ)) : List Call := s.log.map (·.call)

/-- What a step makes the system go through from a session on. -/
def passed (s : Session σ) (x : Act (Logged σ) α) : List (Moment σ) := (after x s.logged).log

/-- What a step asks of the system from a session on. -/
def asked (s : Session σ) (x : Act (Logged σ) α) : List Call := (after x s.logged).calls

lemma logged_agree (s : Session σ) : Session.Agree (fun a b => a.1 = b) s.logged s :=
  ⟨rfl, rfl, rfl, rfl⟩

end Session

end ExampleSuite
