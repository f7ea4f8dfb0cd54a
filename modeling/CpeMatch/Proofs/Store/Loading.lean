import CpeMatch.Proofs.Timing.Task
import CpeMatch.Store.Loading

/-!
**Loading and asking.**

A load takes the files of a store in between readings of the clock, and announces what is held then.  What
it complains of goes to the log and nowhere else.  A store that has been loaded is asked without any of
this.

Main results:

* `CpeMatch.Store.start_ask`, `CpeMatch.Store.start_ask_unloaded` — asking a store that has been loaded, and
  one that has not;
* `CpeMatch.Store.exists_start_load` — **complaints only change the log**;
* `CpeMatch.Store.load_cases` — the two ends of a load.
-/

set_option autoImplicit false

namespace CpeMatch.Store

open Timing

/-- A loaded store answers at once, and asking it leaves everything as it is. -/
theorem start_ask {α : Type} (tree : Files.Tree) (question : Store → Except Fault α)
    {session : Session Float Store} (hloaded : session.state.loaded = true) :
    (ask tree question).start session = (question session.state, session) := by
  have hensure : (ensureLoaded tree).start session = (.ok (), session) := by
    change (if session.state.loaded then (pure () : StoreTask Unit) else _).start session = _
    rw [if_pos hloaded]
    rfl
  rw [ask, Task.start_bind hensure]
  rfl

/-- A store that has not been loaded is loaded when it is asked, and answers only if the load comes to its
end. -/
theorem start_ask_unloaded {α : Type} (tree : Files.Tree) (question : Store → Except Fault α)
    {session : Session Float Store} (hloaded : session.state.loaded = false) :
    (ask tree question).start session =
      match (load tree).start session with
      | (.error f, session₁) => (.error f, session₁)
      | (.ok _, session₁) => (question session₁.state, session₁) := by
  have hensure : (ensureLoaded tree).start session =
      (do let _ ← load tree; return () : StoreTask Unit).start session := by
    change (if session.state.loaded then (pure () : StoreTask Unit) else do
      let _ ← load tree
      return ()).start session = _
    rw [hloaded, if_neg Bool.false_ne_true]
  rw [ask]
  cases hload : (load tree).start session with
  | mk result session₁ =>
    cases result with
    | error f => rw [Task.start_bind_error (hensure.trans (Task.start_bind_error hload))]
    | ok n =>
        rw [Task.start_bind (hensure.trans (Task.start_bind hload))]
        rfl

/-- What has been taken in becomes the state, and the complaints go to the log. -/
theorem start_accept (a : Absorbed) (session : Session Float Store) :
    (accept a).start session =
      (match a.fault with
        | some f => .error f
        | none => .ok (),
      { session with
        log := session.log ++ (a.complaints.map (·.record)).toArray
        state := a.store }) := by
  rw [accept, Task.start_bind (Task.start_noteAll _ session)]
  cases a.fault <;> rfl

/-- The record of the time of a load that is entered at the given state of the clock. -/
def loadMetric (clock : Clock Float) (result : Except Fault Nat) : Metric Float :=
  ⟨"load", Duration.sub clock.take.2.take.1 clock.take.1, Task.itemsOf id result⟩

/-- The timed part of a load. -/
theorem start_measure_load {tree : Files.Tree} (session : Session Float Store) {config : Config}
    {store : Store} {complaints : List Complaint} {fault : Option Fault}
    (habsorb : absorbPath tree session.state config = ⟨store, complaints, fault⟩) :
    let result : Except Fault Nat := match fault with
      | some f => .error f
      | none => .ok store.held.size
    (measureResult recordMetric "load" id (do
        accept (absorbPath tree (← Task.state) config)
        return (← Task.state).held.size) : StoreTask Nat).start session =
      (result, ⟨session.clock.take.2.take.2, session.announcing,
        session.log ++ (complaints.map (·.record)).toArray,
        recordMetric (loadMetric session.clock result) store⟩) := by
  intro result
  let entered : Session Float Store := { session with clock := session.clock.take.2 }
  have hblock : (do
      accept (absorbPath tree (← Task.state) config)
      return (← Task.state).held.size : StoreTask Nat).start entered =
        (result, ⟨session.clock.take.2, session.announcing,
          session.log ++ (complaints.map (·.record)).toArray, store⟩) := by
    have haccept := start_accept (absorbPath tree session.state config) entered
    rw [habsorb] at haccept
    rw [Task.start_bind (Task.start_state entered), habsorb]
    cases fault with
    | some f => rw [Task.start_bind_error haccept]
    | none => rw [Task.start_bind haccept]; rfl
  exact Task.start_measureResult hblock recordMetric "load" id

/-- The part of a load whose time is announced. -/
def announcedLoad (tree : Files.Tree) : StoreTask Nat := do
  match (← Task.state).config with
  | none => return (← Task.state).held.size
  | some config =>
    let held ← measureResult recordMetric "load" id do
      accept (absorbPath tree (← Task.state) config)
      return (← Task.state).held.size
    Task.change fun s => { s with loaded := true }
    Task.note (Log.Channel.store.record .info (loadedMessage (← Task.state) config))
    return held

theorem load_eq_announced (tree : Files.Tree) :
    load tree = announced seconds "load" (announcedLoad tree) := rfl

/-- **Complaints only change the log.**  Two trees in whose files a store finds the same, and meets the
same fault, if any, give the same result, the same state and the same times, of which there is one record;
between what the log has held and what is announced stands what has been complained of. -/
theorem exists_start_load {session : Session Float Store} {config : Config}
    (hconfig : session.state.config = some config) (store : Store) (fault : Option Fault) :
    ∃ (result : Except Fault Nat) (clock : Clock Float) (announced : List Log.Record) (state : Store)
        (metric : Metric Float),
      metric.counted = (("load" : Text), Task.itemsOf id result) ∧
      (∀ f, fault = some f → result = .error f ∧ state = recordMetric metric store) ∧
      (fault = none → result = .ok store.held.size ∧
        state = { recordMetric metric store with loaded := true }) ∧
      ∀ tree complaints, absorbPath tree session.state config = ⟨store, complaints, fault⟩ →
        (load tree).start session =
          (result, ⟨clock, session.announcing,
            session.log ++ (complaints.map (·.record) ++ announced).toArray, state⟩) := by
  let entered : Session Float Store := { session with clock := session.clock.take.2 }
  have hcall : ∀ tree, (announcedLoad tree).start entered = (do
      let held ← measureResult recordMetric "load" id do
        accept (absorbPath tree (← Task.state) config)
        return (← Task.state).held.size
      Task.change fun s => { s with loaded := true }
      Task.note (Log.Channel.store.record .info (loadedMessage (← Task.state) config))
      return held : StoreTask Nat).start entered := by
    intro tree
    rw [announcedLoad, Task.start_bind (Task.start_state entered)]
    change (match session.state.config with
      | none => _
      | some config => _ : StoreTask Nat).start entered = _
    rw [hconfig]
  cases fault with
  | some f =>
      refine ⟨.error f, entered.clock.take.2.take.2, [],
        recordMetric (loadMetric entered.clock (.error f)) store, loadMetric entered.clock (.error f), rfl,
        ?_, ?_, ?_⟩
      · rintro _ ⟨⟩
        exact ⟨rfl, rfl⟩
      · rintro ⟨⟩
      · intro tree complaints habsorb
        have hmeasure := start_measure_load entered habsorb
        have hrun := (hcall tree).trans (Task.start_bind_error hmeasure)
        rw [load_eq_announced, Task.start_announced_error hrun, List.append_nil]
  | none =>
      let metric : Metric Float := loadMetric entered.clock (.ok store.held.size)
      let state : Store := { recordMetric metric store with loaded := true }
      let said : Log.Record := Log.Channel.store.record .info (loadedMessage state config)
      let left : Clock Float := entered.clock.take.2.take.2
      let elapsed : Text := seconds (Duration.sub left.take.1 session.clock.take.1)
      refine ⟨.ok store.held.size, left.take.2,
        if session.announcing then [said, announcement "load" elapsed] else [said], state, metric, rfl,
        ?_, ?_, ?_⟩
      · rintro _ ⟨⟩
      · rintro _
        exact ⟨rfl, rfl⟩
      · intro tree complaints habsorb
        have hmeasure := start_measure_load entered habsorb
        have hrun := (hcall tree).trans (Task.start_bind hmeasure)
        rw [Task.start_bind (Task.start_change _ _), Task.start_bind (Task.start_state _),
          Task.start_bind (Task.start_note _ _)] at hrun
        rw [load_eq_announced, Task.start_announced hrun]
        cases session.announcing with
        | true => simp [entered, state, metric, said, left, elapsed, Clock.take]
        | false => simp [entered, state, metric, said, left, Clock.take]

/-- **The two ends of a load.**  Either way the data that have been taken in are left in the store, with one
record of the time. -/
theorem load_cases {session : Session Float Store} {config : Config}
    (hconfig : session.state.config = some config) (tree : Files.Tree) :
    let pass := (load tree).start session
    let taken := absorbPath tree session.state config
    ∃ metric, metric.counted = (("load" : Text), Task.itemsOf id pass.1) ∧
      ((∃ f, taken.fault = some f ∧ pass.1 = .error f ∧ pass.2.state = recordMetric metric taken.store) ∨
       (taken.fault = none ∧ pass.1 = .ok taken.store.held.size ∧
        pass.2.state = { recordMetric metric taken.store with loaded := true })) := by
  intro pass taken
  obtain ⟨result, clock, announced, state, metric, hmetric, hfailed, hended, hrun⟩ :=
    exists_start_load hconfig taken.store taken.fault
  have hpass : pass = _ := hrun tree taken.complaints rfl
  refine ⟨metric, by rw [hpass, hmetric], ?_⟩
  rw [hpass]
  cases hfault : taken.fault with
  | some f =>
      obtain ⟨hresult, hstate⟩ := hfailed f hfault
      exact Or.inl ⟨f, rfl, hresult, hstate⟩
  | none =>
      obtain ⟨hresult, hstate⟩ := hended hfault
      exact Or.inr ⟨rfl, hresult, hstate⟩

end CpeMatch.Store
