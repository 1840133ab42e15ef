import ExampleSuite.Session
import Mathlib.Tactic.Common

/-!
What a step of a run ends with, and the state that it leaves.

Two steps over different kinds of states are alike if from related states they end with the
same and leave related states.
-/

namespace ExampleSuite

variable {ε σ τ α β : Type}

/-- What a step ends with. -/
def answer (x : EStateM ε σ α) (s : σ) : Except ε α :=
  match x.run s with
  | .ok a _ => .ok a
  | .error e _ => .error e

/-- The state that a step leaves. -/
def after (x : EStateM ε σ α) (s : σ) : σ :=
  match x.run s with
  | .ok _ t => t
  | .error _ t => t

@[simp] lemma answer_pure (a : α) (s : σ) : answer (pure a : EStateM ε σ α) s = .ok a := rfl
@[simp] lemma after_pure (a : α) (s : σ) : after (pure a : EStateM ε σ α) s = s := rfl
@[simp] lemma answer_throw (e : ε) (s : σ) : answer (throw e : EStateM ε σ α) s = .error e := rfl
@[simp] lemma after_throw (e : ε) (s : σ) : after (throw e : EStateM ε σ α) s = s := rfl
@[simp] lemma answer_get (s : σ) : answer (get : EStateM ε σ σ) s = .ok s := rfl
@[simp] lemma after_get (s : σ) : after (get : EStateM ε σ σ) s = s := rfl
@[simp] lemma answer_set (s t : σ) : answer (set t : EStateM ε σ PUnit) s = .ok ⟨⟩ := rfl
@[simp] lemma after_set (s t : σ) : after (set t : EStateM ε σ PUnit) s = t := rfl
@[simp] lemma answer_modify (f : σ → σ) (s : σ) :
    answer (modify f : EStateM ε σ PUnit) s = .ok ⟨⟩ := rfl
@[simp] lemma after_modify (f : σ → σ) (s : σ) :
    after (modify f : EStateM ε σ PUnit) s = f s := rfl

lemma eq_ok_iff {r : Except ε α} {a : α} : r = .ok a ↔ r.toOption = some a := by
  cases r <;> simp [Except.toOption]

lemma answer_eq_ok {x : EStateM ε σ α} {s : σ} {a : α} :
    answer x s = .ok a ↔ (answer x s).toOption = some a :=
  eq_ok_iff

lemma answer_congr {x y : EStateM ε σ α} {s : σ} (h : x.run s = y.run s) :
    answer x s = answer y s := by rw [answer, h, answer]

lemma after_congr {x y : EStateM ε σ α} {s : σ} (h : x.run s = y.run s) :
    after x s = after y s := by rw [after, h, after]

lemma answer_bind (x : EStateM ε σ α) (f : α → EStateM ε σ β) (s : σ) :
    answer (x >>= f) s =
      match answer x s with
      | .ok a => answer (f a) (after x s)
      | .error e => .error e := by
  unfold answer after
  rw [EStateM.run_bind]
  cases x.run s <;> rfl

lemma after_bind (x : EStateM ε σ α) (f : α → EStateM ε σ β) (s : σ) :
    after (x >>= f) s =
      match answer x s with
      | .ok a => after (f a) (after x s)
      | .error _ => after x s := by
  unfold answer after
  rw [EStateM.run_bind]
  cases x.run s <;> rfl

lemma answer_bind_ok {x : EStateM ε σ α} {f : α → EStateM ε σ β} {s : σ} {a : α}
    (h : answer x s = .ok a) : answer (x >>= f) s = answer (f a) (after x s) := by
  rw [answer_bind, h]

lemma after_bind_ok {x : EStateM ε σ α} {f : α → EStateM ε σ β} {s : σ} {a : α}
    (h : answer x s = .ok a) : after (x >>= f) s = after (f a) (after x s) := by
  rw [after_bind, h]

lemma answer_bind_error {x : EStateM ε σ α} {f : α → EStateM ε σ β} {s : σ} {e : ε}
    (h : answer x s = .error e) : answer (x >>= f) s = .error e := by
  rw [answer_bind, h]

lemma after_bind_error {x : EStateM ε σ α} {f : α → EStateM ε σ β} {s : σ} {e : ε}
    (h : answer x s = .error e) : after (x >>= f) s = after x s := by
  rw [after_bind, h]

lemma of_answer_bind_ok {x : EStateM ε σ α} {f : α → EStateM ε σ β} {s : σ} {b : β}
    (h : answer (x >>= f) s = .ok b) :
    ∃ a, answer x s = .ok a ∧ answer (f a) (after x s) = .ok b ∧
      after (x >>= f) s = after (f a) (after x s) := by
  rw [answer_bind] at h
  rw [after_bind]
  cases ha : answer x s with
  | ok a =>
    rw [ha] at h
    exact ⟨a, rfl, h, rfl⟩
  | error e =>
    rw [ha] at h
    cases h

/-- A step that looks at the state first. -/
lemma run_get_bind (f : σ → EStateM ε σ α) (s : σ) : (get >>= f).run s = (f s).run s := rfl

namespace Act

lemma answer_tell_bind (e : Log.Event) (g : Unit → Act σ β) (s : Session σ) :
    answer (tell e >>= g) s = answer (g ()) (after (tell e) s) := rfl

lemma after_tell_bind (e : Log.Event) (g : Unit → Act σ β) (s : Session σ) :
    after (tell e >>= g) s = after (g ()) (after (tell e) s) := rfl

lemma run_look_bind (f : σ → α) (g : α → Act σ β) (s : Session σ) :
    (look f >>= g).run s = (g (f s.world)).run s := rfl

lemma answer_look_bind (f : σ → α) (g : α → Act σ β) (s : Session σ) :
    answer (look f >>= g) s = answer (g (f s.world)) s := rfl

lemma after_look_bind (f : σ → α) (g : α → Act σ β) (s : Session σ) :
    after (look f >>= g) s = after (g (f s.world)) s := rfl

lemma answer_act_bind (f : σ → σ × α) (g : α → Act σ β) (s : Session σ) :
    answer (act f >>= g) s = answer (g (f s.world).2) (after (act f) s) := rfl

lemma after_act_bind (f : σ → σ × α) (g : α → Act σ β) (s : Session σ) :
    after (act f >>= g) s = after (g (f s.world).2) (after (act f) s) := rfl

end Act

/-! ### Steps that are alike -/

/-- From related states two steps end with the same and leave related states. -/
def Alike (R : σ → τ → Prop) (x : EStateM ε σ α) (y : EStateM ε τ α) : Prop :=
  ∀ s t, R s t → answer x s = answer y t ∧ R (after x s) (after y t)

namespace Alike

variable {R : σ → τ → Prop}

lemma pure (a : α) :
    Alike R (Pure.pure a : EStateM ε σ α) (Pure.pure a : EStateM ε τ α) :=
  fun _ _ h => ⟨rfl, h⟩

lemma throw (e : ε) :
    Alike R (MonadExcept.throw e : EStateM ε σ α) (MonadExcept.throw e : EStateM ε τ α) :=
  fun _ _ h => ⟨rfl, h⟩

lemma bind {x : EStateM ε σ α} {y : EStateM ε τ α} {f : α → EStateM ε σ β}
    {g : α → EStateM ε τ β} (hx : Alike R x y) (hf : ∀ a, Alike R (f a) (g a)) :
    Alike R (x >>= f) (y >>= g) := by
  intro s t h
  obtain ⟨ha, hr⟩ := hx s t h
  rw [answer_bind, answer_bind, after_bind, after_bind, ← ha]
  cases answer x s with
  | ok a => exact hf a _ _ hr
  | error e => exact ⟨rfl, hr⟩

lemma get {f : σ → EStateM ε σ α} {g : τ → EStateM ε τ α}
    (hf : ∀ s t, R s t → Alike R (f s) (g t)) :
    Alike R (MonadState.get >>= f) (MonadState.get >>= g) :=
  fun s t h => hf s t h s t h

lemma set {s : σ} {t : τ} (h : R s t) :
    Alike R (MonadStateOf.set s : EStateM ε σ PUnit) (MonadStateOf.set t : EStateM ε τ PUnit) :=
  fun _ _ _ => ⟨rfl, h⟩

lemma forM {f : α → EStateM ε σ PUnit} {g : α → EStateM ε τ PUnit}
    (hf : ∀ a, Alike R (f a) (g a)) (l : List α) : Alike R (l.forM f) (l.forM g) := by
  induction l with
  | nil => exact pure _
  | cons a l ih => exact bind (hf a) fun _ => ih

end Alike

end ExampleSuite
