import CpeMatch.Proofs.Timing.Task

/-!
**Tasks that do the same.**

Two tasks may be written differently and still do the same in every session whose state has some property:
they end in the same way, read the clock as often, write the same to the log and leave the same state.  To
follow this through tasks that are put together one has to know that the property lasts, however a task ends,
and what more holds of its result where it has one.

Main definitions:

* `CpeMatch.Timing.Task.Keeps` — a property of the state lasts, however the task ends;
* `CpeMatch.Timing.Task.Leads` — what holds of a result, if there is one;
* `CpeMatch.Timing.Task.AgreeOn` — two tasks do the same wherever a property holds of the state.

Main results:

* `CpeMatch.Timing.Task.Keeps.bind`, `CpeMatch.Timing.Task.AgreeOn.bind` — one task after another;
* `CpeMatch.Timing.Task.AgreeOn.measureResult`, `CpeMatch.Timing.Task.AgreeOn.announced` — timed tasks.
-/

set_option autoImplicit false

namespace CpeMatch.Timing.Task

variable {τ S T ε α β : Type}

/-- If the property holds of the state before the task, then also after it, however the task ends. -/
def Keeps (p : S → Prop) (t : Task τ S ε α) : Prop :=
  ∀ s : Session τ S, p s.state → p (t.start s).2.state

/-- If `p` holds of the state before the task and the task has a result, then `q` holds of this and of the
state after it. -/
def Leads (p : S → Prop) (t : Task τ S ε α) (q : α → S → Prop) : Prop :=
  ∀ s : Session τ S, p s.state → ∀ a s', t.start s = (.ok a, s') → q a s'.state

/-- The tasks do the same in every session whose state has the property. -/
def AgreeOn (p : S → Prop) (t t' : Task τ S ε α) : Prop :=
  ∀ s : Session τ S, p s.state → t.start s = t'.start s

/-! ### What lasts -/

namespace Keeps

variable {p : S → Prop}

theorem pure (a : α) : Keeps p (pure a : Task τ S ε α) := fun _ hs => hs

theorem settle (result : Except ε α) : Keeps p (settle result : Task τ S ε α) := fun _ hs => hs

theorem state : Keeps p (state : Task τ S ε S) := fun _ hs => hs

theorem tick : Keeps p (tick : Task τ S ε τ) := fun _ hs => hs

theorem note (r : Log.Record) : Keeps p (note r : Task τ S ε Unit) := fun _ hs => hs

theorem noteAll (records : List Log.Record) : Keeps p (noteAll records : Task τ S ε Unit) := by
  intro s hs
  rw [start_noteAll]
  exact hs

/-- One task after another. -/
theorem bind {t : Task τ S ε β} {f : β → Task τ S ε α} (ht : Keeps p t) (hf : ∀ b, Keeps p (f b)) :
    Keeps p (t >>= f) := by
  intro s hs
  have hs' := ht s hs
  cases h : t.start s with
  | mk result s' =>
      rw [h] at hs'
      cases result with
      | error e =>
          rw [start_bind_error h]
          exact hs'
      | ok b =>
          rw [start_bind h]
          exact hf b s' hs'

theorem attempt {t : Task τ S ε α} (ht : Keeps p t) : Keeps p t.attempt := ht

/-- A task on a part of the state keeps what is said of this part. -/
theorem within {part : S → T} {put : T → S → S} (hput : ∀ x s, part (put x s) = x) {p : T → Prop}
    {t : Task τ T ε α} (ht : Keeps p t) : Keeps (fun s => p (part s)) (t.within part put) := by
  intro s hs
  change p (part (put _ s.state))
  rw [hput]
  exact ht { s with state := part s.state } hs

variable [Duration τ]

/-- A timed block keeps what the record of it does not change. -/
theorem measureResult {block : Task τ S ε α} (hblock : Keeps p block) (record : Metric τ → S → S)
    (hrecord : ∀ m s, p s → p (record m s)) (operation : Text) (items : α → Nat) :
    Keeps p (measureResult record operation items block) := by
  intro s hs
  cases h : block.start { s with clock := s.clock.take.2 } with
  | mk result s' =>
      have hs' := hblock { s with clock := s.clock.take.2 } hs
      rw [h] at hs'
      rw [start_measureResult h]
      exact hrecord _ _ hs'

theorem announced {call : Task τ S ε α} (hcall : Keeps p call) (show4 : τ → Text) (name : Text) :
    Keeps p (announced show4 name call) := by
  intro s hs
  have hs' := hcall { s with clock := s.clock.take.2 } hs
  cases h : call.start { s with clock := s.clock.take.2 } with
  | mk result s' =>
      rw [h] at hs'
      cases result with
      | error e =>
          rw [start_announced_error h]
          exact hs'
      | ok a =>
          rw [start_announced h]
          exact hs'

end Keeps

/-- What lasts holds where there is a result, too. -/
theorem Keeps.leads {p : S → Prop} {t : Task τ S ε α} (ht : Keeps p t) : Leads p t fun _ => p := by
  intro s hs a s' h
  have hs' := ht s hs
  rwa [h] at hs'

/-- One task after another. -/
theorem Leads.bind {p : S → Prop} {r : β → S → Prop} {q : α → S → Prop} {t : Task τ S ε β}
    {f : β → Task τ S ε α} (ht : Leads p t r) (hf : ∀ b, Leads (r b) (f b) q) : Leads p (t >>= f) q := by
  intro s hs a s' hrun
  cases h : t.start s with
  | mk result s₁ =>
      cases result with
      | error e =>
          rw [start_bind_error h] at hrun
          cases hrun
      | ok b =>
          rw [start_bind h] at hrun
          exact hf b s₁ (ht s hs b s₁ h) a s' hrun

/-! ### Tasks that agree -/

namespace AgreeOn

variable {p : S → Prop} {t t' : Task τ S ε α}

theorem refl (p : S → Prop) (t : Task τ S ε α) : AgreeOn p t t := fun _ _ => rfl

/-- One task after another. -/
theorem bind {r r' : Task τ S ε β} {f f' : β → Task τ S ε α} {q : β → S → Prop} (hr : AgreeOn p r r')
    (hq : Leads p r q) (hf : ∀ b, AgreeOn (q b) (f b) (f' b)) : AgreeOn p (r >>= f) (r' >>= f') := by
  intro s hs
  have hsame := hr s hs
  cases h : r.start s with
  | mk result s' =>
      cases result with
      | error e => rw [start_bind_error h, start_bind_error (hsame ▸ h)]
      | ok b => rw [start_bind h, start_bind (hsame ▸ h), hf b s' (hq s hs b s' h)]

/-- Tasks that agree, and the same task behind them. -/
theorem bind_same {r r' : Task τ S ε β} (hr : AgreeOn p r r') (f : β → Task τ S ε α) :
    AgreeOn p (r >>= f) (r' >>= f) :=
  hr.bind (q := fun _ _ => True) (fun _ _ _ _ _ => trivial) fun _ _ _ => rfl

theorem attempt (h : AgreeOn p t t') : AgreeOn p t.attempt t'.attempt := by
  intro s hs
  rw [start_attempt, start_attempt, h s hs]

/-- Tasks on a part of the state. -/
theorem within {part : S → T} {put : T → S → S} {p : T → Prop} {t t' : Task τ T ε α}
    (h : AgreeOn p t t') : AgreeOn (fun s => p (part s)) (t.within part put) (t'.within part put) := by
  intro s hs
  have hsame := h { s with state := part s.state } hs
  exact congrArg (fun run : Except ε α × Session τ T =>
    (run.1, ({ run.2 with state := put run.2.state s.state } : Session τ S))) hsame

variable [Duration τ]

/-- Timed blocks. -/
theorem measureResult (h : AgreeOn p t t') (record : Metric τ → S → S) (operation : Text)
    (items : α → Nat) :
    AgreeOn p (measureResult record operation items t) (measureResult record operation items t') := by
  intro s hs
  have hsame := h { s with clock := s.clock.take.2 } hs
  cases hrun : t.start { s with clock := s.clock.take.2 } with
  | mk result s' => rw [start_measureResult hrun, start_measureResult (hsame ▸ hrun)]

/-- Announced calls. -/
theorem announced (h : AgreeOn p t t') (show4 : τ → Text) (name : Text) :
    AgreeOn p (announced show4 name t) (announced show4 name t') := by
  intro s hs
  have hsame := h { s with clock := s.clock.take.2 } hs
  cases hrun : t.start { s with clock := s.clock.take.2 } with
  | mk result s' =>
      cases result with
      | error e => rw [start_announced_error hrun, start_announced_error (hsame ▸ hrun)]
      | ok a => rw [start_announced hrun, start_announced (hsame ▸ hrun)]

end AgreeOn

end CpeMatch.Timing.Task
