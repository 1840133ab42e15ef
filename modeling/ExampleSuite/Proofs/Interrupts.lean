import ExampleSuite.Proofs.Calls

/-!
Interrupts that are kept until they are found.

The states in the log of a run follow from one another: each is what a call leaves of the one
before. So a system that keeps an interrupt from call to call, until the run finds it, keeps it
along the log.
-/

namespace ExampleSuite

variable {σ : Type} {h : Host σ} {sane pending : σ → Prop}

/-- What can be logged next in a state of the system. -/
inductive Host.Leads (h : Host σ) (a : σ) : Moment σ → Prop where
  | listen : h.Leads a ⟨.listened, h.listen a⟩
  | start (p c : Path) (n : Nat) :
      h.Leads a ⟨.started p c n (h.start p c n a).2, (h.start p c n a).1⟩
  | next (w : Watch) : h.Leads a ⟨.saw (h.next w a).2.sight, (h.next w a).1⟩
  | kill : h.Leads a ⟨.killed (h.kill a).2, (h.kill a).1⟩
  | poll : h.Leads a ⟨.polled (h.poll a).2, (h.poll a).1⟩
  | check : h.Leads a ⟨.checked (h.check a).2, (h.check a).1⟩

lemma Host.Leads.keeps_sane {a : σ} {m : Moment σ} (C : h.Closed sane) (hm : h.Leads a m)
    (ha : sane a) : sane m.state := by
  cases hm with
  | listen => exact C.listen ha
  | start p c n => exact C.start p c n ha
  | next w => exact C.next w ha
  | kill => exact C.kill ha
  | poll => exact C.poll ha
  | check => exact C.check ha

/-- The moments lead from one state to another. -/
inductive Host.Chain (h : Host σ) : σ → List (Moment σ) → σ → Prop where
  | nil (a : σ) : h.Chain a [] a
  | cons {a b : σ} {m : Moment σ} {ms : List (Moment σ)} (leads : h.Leads a m)
      (rest : h.Chain m.state ms b) : h.Chain a (m :: ms) b

namespace Host.Chain

variable {a b c : σ} {m : Moment σ} {ms ns : List (Moment σ)}

lemma snoc (H : h.Chain a ms b) (hm : h.Leads b m) : h.Chain a (ms ++ [m]) m.state := by
  induction H with
  | nil a => exact .cons hm (.nil _)
  | cons leads rest ih => exact .cons leads (ih hm)

lemma split (H : h.Chain a (ms ++ ns) c) : ∃ b, h.Chain a ms b ∧ h.Chain b ns c := by
  induction ms generalizing a with
  | nil => exact ⟨a, .nil a, H⟩
  | cons m ms ih =>
    cases H with
    | cons leads rest =>
      obtain ⟨b, hb, hc⟩ := ih rest
      exact ⟨b, .cons leads hb, hc⟩

lemma keeps_sane (C : h.Closed sane) (H : h.Chain a ms b) (ha : sane a) : sane b := by
  induction H with
  | nil a => exact ha
  | cons leads rest ih => exact ih (leads.keeps_sane C ha)

end Host.Chain

/-- The log of a system is a chain from the state that it began with. -/
lemma Host.logged_chain (h : Host σ) (w : σ) : h.logged.Closed fun a => h.Chain w a.2 a.1 where
  listen ha := ha.snoc .listen
  start p c n _ ha := ha.snoc (.start p c n)
  next v _ ha := ha.snoc (.next v)
  kill ha := ha.snoc .kill
  poll ha := ha.snoc .poll
  check ha := ha.snoc .check

/-! ### Pending interrupts -/

/-- What a system promises about an interrupt that is `pending`: it stays so until the watch over
a child is told of it or it is asked for. -/
structure Host.Queues (h : Host σ) (sane pending : σ → Prop) : Prop where
  next : ∀ (w : Watch) {a}, sane a → pending a →
    (h.next w a).2 = .interrupted ∨ pending (h.next w a).1
  kill : ∀ {a}, sane a → pending a → pending (h.kill a).1
  poll : ∀ {a}, sane a → pending a → pending (h.poll a).1
  check : ∀ {a}, sane a → pending a → (h.check a).2 = true

/-- A child is running or has just ended. -/
def Call.Watches : Call → Prop
  | .started _ _ _ (.ok _) | .saw _ | .killed _ | .polled _ => True
  | _ => False

/-- Something has been seen of a child other than an interrupt, or the child has been dealt with. -/
def Call.Keeps : Call → Prop
  | .saw x => x ≠ .interrupted
  | .killed _ | .polled _ => True
  | _ => False

lemma Host.Leads.keeps_pending {a : σ} {m : Moment σ} (Q : h.Queues sane pending) (ha : sane a)
    (hp : pending a) (hm : h.Leads a m) (hk : m.call.Keeps) : pending m.state := by
  cases hm with
  | listen => exact hk.elim
  | start p c n => exact hk.elim
  | next w =>
    rcases Q.next w ha hp with he | hp
    · have hs : (h.next w a).2.sight ≠ .interrupted := hk
      rw [he] at hs
      exact absurd rfl hs
    · exact hp
  | kill => exact Q.kill ha hp
  | poll => exact Q.poll ha hp
  | check => exact hk.elim

lemma Host.Chain.keeps_pending {a b : σ} {ms : List (Moment σ)} (C : h.Closed sane)
    (Q : h.Queues sane pending) (H : h.Chain a ms b) (ha : sane a) (hp : pending a)
    (hk : ∀ m ∈ ms, m.call.Keeps) : pending b := by
  induction H with
  | nil a => exact hp
  | @cons a b m ms leads rest ih =>
    exact ih (leads.keeps_sane C ha) (leads.keeps_pending Q ha hp (hk m List.mem_cons_self))
      fun m' hm' => hk m' (List.mem_cons_of_mem m hm')

/-- A pending interrupt is found when it is asked for, unless it has been found before. -/
theorem Host.Chain.found {w b : σ} {pre mid post : List (Moment σ)} {m k : Moment σ}
    (C : h.Closed sane) (Q : h.Queues sane pending) (hw : sane w)
    (H : h.Chain w (pre ++ m :: (mid ++ k :: post)) b) (hp : pending m.state)
    (hmid : ∀ m ∈ mid, m.call.Keeps) {found : Bool} (hk : k.call = .checked found) :
    found = true := by
  obtain ⟨a, hpre, hrest⟩ := H.split
  cases hrest with
  | cons leads rest =>
    have hm := leads.keeps_sane C (hpre.keeps_sane C hw)
    obtain ⟨c, hmid', hlast⟩ := rest.split
    have hc := hmid'.keeps_pending C Q hm hp hmid
    cases hlast with
    | cons leads' rest' =>
      cases leads' with
      | check =>
        rw [Call.checked.inj hk.symm]
        exact Q.check (hmid'.keeps_sane C hm) hc
      | _ => cases hk

end ExampleSuite
