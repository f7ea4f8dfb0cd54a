import CpeMatch.Timing.Monitor

/-!
**What a task gives.**

A task runs through its parts one after another, and its session with it.  Most tasks end with a result
whatever the clock reads and whatever stands in the log.  Of these one says what holds of the result and
the state afterwards if something holds of the state before.  Of a task that only reads one says that it
always ends in the same way, be it with a result or not.  There are rules for tasks that are put together,
so that nothing else needs to look at a session.

Main definitions:

* `CpeMatch.Timing.Metric.counted` — what is recorded of a block whatever the clock reads;
* `CpeMatch.Timing.Monitor.Records` — what becomes of a monitor by recording blocks;
* `CpeMatch.Timing.Task.Reads` — a task that leaves the state as it is, and always ends in the same way;
* `CpeMatch.Timing.Task.Gives` — a task ends with a result, and what holds of it.

Main results:

* `CpeMatch.Timing.Task.start_bind`, `CpeMatch.Timing.Task.start_measureResult`,
  `CpeMatch.Timing.Task.start_announced` — the session after a task;
* `CpeMatch.Timing.Task.Reads.exists_bind`, `CpeMatch.Timing.Task.Gives.bind` — one task after another.
-/

set_option autoImplicit false

namespace CpeMatch.Timing

variable {τ S ε α β : Type}

/-- What is recorded of a timed block besides its time. -/
def Metric.counted (m : Metric τ) : Text × Number := (m.operation, m.items)

theorem Monitor.enabled_record (m : Metric τ) (monitor : Monitor τ) :
    (monitor.record m).enabled = monitor.enabled := by
  rw [record]
  split <;> rfl

/-- A monitor that is enabled has each block recorded behind the others. -/
theorem Monitor.metrics_record (m : Metric τ) {monitor : Monitor τ} (h : monitor.enabled = true) :
    (monitor.record m).metrics.toList = monitor.metrics.toList ++ [m] := by
  rw [record, if_pos h, Array.toList_push]

/-- The monitor `m'` has come of `m` by recording blocks with the given counts. -/
structure Monitor.Records (counts : List (Text × Number)) (m m' : Monitor τ) : Prop where
  enabled_eq : m'.enabled = m.enabled
  metrics_eq : m.enabled = true →
    m'.metrics.toList.map Metric.counted = m.metrics.toList.map Metric.counted ++ counts
  eq_of_disabled : m.enabled = false → m' = m

namespace Monitor.Records

theorem nil (m : Monitor τ) : Records [] m m := ⟨rfl, fun _ => by rw [List.append_nil], fun _ => rfl⟩

/-- One block and then others. -/
theorem cons (metric : Metric τ) {m m' : Monitor τ} {counts : List (Text × Number)}
    (h : Records counts (m.record metric) m') : Records (metric.counted :: counts) m m' where
  enabled_eq := h.enabled_eq.trans (enabled_record metric m)
  metrics_eq henabled := by
    rw [h.metrics_eq ((enabled_record metric m).trans henabled), metrics_record metric henabled,
      List.map_append, List.append_assoc]
    rfl
  eq_of_disabled hdisabled := by
    have hsame : m.record metric = m := by rw [record, if_neg (by rw [hdisabled]; exact Bool.false_ne_true)]
    rw [hsame] at h
    exact h.eq_of_disabled hdisabled

end Monitor.Records

/-! ### Running tasks -/

namespace Task

/-- A task after another runs from where that has ended. -/
theorem start_bind {t : Task τ S ε β} {f : β → Task τ S ε α} {b : β} {s s' : Session τ S}
    (h : t.start s = (.ok b, s')) : (t >>= f).start s = (f b).start s' := by
  change (ExceptT.bindCont f (t.start s).1).run (t.start s).2 = _
  rw [h]
  rfl

/-- A task after one that fails does not run. -/
theorem start_bind_error {t : Task τ S ε β} {f : β → Task τ S ε α} {e : ε} {s s' : Session τ S}
    (h : t.start s = (.error e, s')) : (t >>= f).start s = (.error e, s') := by
  change (ExceptT.bindCont f (t.start s).1).run (t.start s).2 = _
  rw [h]
  rfl

/-- What is made of the result of a task. -/
theorem start_map (f : β → α) (t : Task τ S ε β) (s : Session τ S) :
    (do return f (← t) : Task τ S ε α).start s = ((t.start s).1.map f, (t.start s).2) := by
  cases h : t.start s with
  | mk result s' =>
    cases result with
    | error e => exact start_bind_error h
    | ok b => exact start_bind h

theorem start_bind_congr {t : Task τ S ε β} {s s' : Session τ S} (h : t.start s = t.start s')
    (f : β → Task τ S ε α) : (t >>= f).start s = (t >>= f).start s' := by
  change (ExceptT.bindCont f (t.start s).1).run (t.start s).2 =
    (ExceptT.bindCont f (t.start s').1).run (t.start s').2
  rw [h]

theorem start_settle {result : Except ε α} {a : α} (h : result = .ok a) (s : Session τ S) :
    (settle result : Task τ S ε α).start s = (.ok a, s) := by
  rw [h]
  rfl

theorem start_settle_error {result : Except ε α} {e : ε} (h : result = .error e) (s : Session τ S) :
    (settle result : Task τ S ε α).start s = (.error e, s) := by
  rw [h]
  rfl

theorem start_tick (s : Session τ S) :
    (tick : Task τ S ε τ).start s = (.ok s.clock.take.1, { s with clock := s.clock.take.2 }) := rfl

theorem start_get (s : Session τ S) : (get : Task τ S ε (Session τ S)).start s = (.ok s, s) := rfl

theorem start_state (s : Session τ S) : (state : Task τ S ε S).start s = (.ok s.state, s) := rfl

theorem start_change (f : S → S) (s : Session τ S) :
    (change f : Task τ S ε Unit).start s = (.ok (), { s with state := f s.state }) := rfl

theorem start_note (r : Log.Record) (s : Session τ S) :
    (note r : Task τ S ε Unit).start s = (.ok (), { s with log := s.log.push r }) := rfl

theorem start_noteAll (records : List Log.Record) (s : Session τ S) :
    (noteAll records : Task τ S ε Unit).start s =
      (.ok (), { s with log := s.log ++ records.toArray }) := by
  induction records generalizing s with
  | nil => rfl
  | cons r rest ih =>
      rw [noteAll, start_bind (start_note r s), ih]
      simp

/-- An attempt ends with whatever the task ends with. -/
theorem start_attempt (t : Task τ S ε α) (s : Session τ S) :
    t.attempt.start s = (.ok (t.start s).1, (t.start s).2) := rfl

section

variable [Duration τ]

/-- A timed block is recorded when it is left, with the time since it was entered. -/
theorem start_measure {block : Task τ S ε (Number × Except ε α)} {items : Number} {result : Except ε α}
    {s s' : Session τ S} (h : block.start { s with clock := s.clock.take.2 } = (.ok (items, result), s'))
    (record : Metric τ → S → S) (operation : Text) :
    let metric : Metric τ := ⟨operation, Duration.sub s'.clock.take.1 s.clock.take.1, items⟩
    (measure record operation block).start s =
      (.ok (metric, result), { s' with clock := s'.clock.take.2, state := record metric s'.state }) := by
  rw [measure, start_bind (start_tick s), start_bind h, start_bind (start_tick s'),
    start_bind (start_change _ _)]
  rfl

/-- The number of items of a block with the given result: none if it has failed. -/
def itemsOf (items : α → Nat) : Except ε α → Number
  | .ok a => .whole (items a)
  | .error _ => .whole 0

/-- A timed block has the result of the block, whose time and items are recorded. -/
theorem start_measureResult {block : Task τ S ε α} {result : Except ε α} {s s' : Session τ S}
    (h : block.start { s with clock := s.clock.take.2 } = (result, s')) (record : Metric τ → S → S)
    (operation : Text) (items : α → Nat) :
    (measureResult record operation items block).start s =
      (result, { s' with
        clock := s'.clock.take.2
        state := record ⟨operation, Duration.sub s'.clock.take.1 s.clock.take.1, itemsOf items result⟩
          s'.state }) := by
  have hrun : (measureResult record operation items block).start s =
      (fun run : Except ε α × Session τ S => (run.1, { run.2 with
        clock := run.2.clock.take.2
        state := record
          ⟨operation, Duration.sub run.2.clock.take.1 s.clock.take.1, itemsOf items run.1⟩
          run.2.state })) (block.start { s with clock := s.clock.take.2 }) := rfl
  rw [hrun, h]

/-- An announced call has the result of the call. -/
theorem start_announced {call : Task τ S ε α} {a : α} {s s' : Session τ S}
    (h : call.start { s with clock := s.clock.take.2 } = (.ok a, s')) (show4 : τ → Text) (name : Text) :
    (announced show4 name call).start s =
      (.ok a, { s' with
        clock := s'.clock.take.2
        log := if s'.announcing then
            s'.log.push (announcement name (show4 (Duration.sub s'.clock.take.1 s.clock.take.1)))
          else s'.log }) := by
  rw [announced, start_bind (start_tick s), start_bind h, start_bind (start_tick s'),
    start_bind (start_get _)]
  cases s'.announcing <;> rfl

theorem start_announced_error {call : Task τ S ε α} {e : ε} {s s' : Session τ S}
    (h : call.start { s with clock := s.clock.take.2 } = (.error e, s')) (show4 : τ → Text) (name : Text) :
    (announced show4 name call).start s = (.error e, s') := by
  rw [announced, start_bind (start_tick s), start_bind_error h]

end

end Task

/-! ### Reading only -/

/-- In every state with `p` the task ends in the same way, and leaves the state as it is. -/
def Task.Reads (p : S → Prop) (t : Task τ S ε α) (result : Except ε α) : Prop :=
  ∀ s : Session τ S, p s.state → (t.start s).1 = result ∧ (t.start s).2.state = s.state

namespace Task.Reads

variable {p : S → Prop} {result : Except ε α}

theorem pure (a : α) : Reads p (pure a : Task τ S ε α) (.ok a) := fun _ _ => ⟨rfl, rfl⟩

theorem settle (result : Except ε α) : Reads p (settle result : Task τ S ε α) result :=
  fun _ _ => ⟨rfl, rfl⟩

theorem note (r : Log.Record) {t : Task τ S ε α} (ht : Reads p t result) :
    Reads p (do Task.note r; t) result :=
  fun s hs => ht { s with log := s.log.push r } hs

theorem exists_noteAll (records : List Log.Record) {t : Task τ S ε α} (ht : ∃ r, Reads p t r) :
    ∃ r, Reads p (do Task.noteAll records; t) r := by
  induction records with
  | nil => exact ht
  | cons r rest ih =>
      obtain ⟨result, hresult⟩ := ih
      exact ⟨result, hresult.note r⟩

/-- A task that reads only, and another behind it, whatever it is told by the first. -/
theorem exists_bind {t : Task τ S ε β} {f : β → Task τ S ε α} (ht : ∃ r, Reads p t r)
    (hf : ∀ b, ∃ r, Reads p (f b) r) : ∃ r, Reads p (t >>= f) r := by
  obtain ⟨first, ht⟩ := ht
  cases first with
  | error e =>
      refine ⟨.error e, ?_⟩
      intro s hs
      obtain ⟨hresult, hstate⟩ := ht s hs
      rw [start_bind_error (Prod.ext hresult rfl)]
      exact ⟨rfl, hstate⟩
  | ok b =>
      obtain ⟨r, hr⟩ := hf b
      refine ⟨r, ?_⟩
      intro s hs
      obtain ⟨hresult, hstate⟩ := ht s hs
      rw [start_bind (Prod.ext hresult rfl), ← hstate]
      exact hr _ (by rwa [hstate])

end Task.Reads

/-! ### What holds of a result -/

/-- The task `t` ends with a result in every state with `p`, and then `q` holds of the result and the
state. -/
def Task.Gives (p : S → Prop) (t : Task τ S ε α) (q : α → S → Prop) : Prop :=
  ∀ s : Session τ S, p s.state → ∃ a s', t.start s = (.ok a, s') ∧ q a s'.state

namespace Task.Gives

variable {p : S → Prop} {q : α → S → Prop}

/-! ### Putting tasks together -/

/-- A task gives whatever follows from what it gives. -/
theorem imp {q' : α → S → Prop} {t : Task τ S ε α} (h : Gives p t q)
    (hq : ∀ a s, q a s → q' a s) : Gives p t q' := by
  intro s hs
  obtain ⟨a, s', hrun, ha⟩ := h s hs
  exact ⟨a, s', hrun, hq a _ ha⟩

/-- What does not speak of the state can be taken as given. -/
theorem of_and {c : Prop} {t : Task τ S ε α} (h : c → Gives p t q) :
    Gives (fun s => p s ∧ c) t q := by
  intro s hs
  exact h hs.2 s hs.1

theorem pure {a : α} (h : ∀ s, p s → q a s) : Gives p (pure a : Task τ S ε α) q := by
  intro s hs
  exact ⟨a, s, rfl, h _ hs⟩

/-- A task after another starts where that has ended. -/
theorem bind {r : β → S → Prop} {t : Task τ S ε β} {f : β → Task τ S ε α} (ht : Gives p t r)
    (hf : ∀ b, Gives (r b) (f b) q) : Gives p (t >>= f) q := by
  intro s hs
  obtain ⟨b, s', hrun, hb⟩ := ht s hs
  obtain ⟨a, s'', hrun', ha⟩ := hf b s' hb
  exact ⟨a, s'', by rw [start_bind hrun, hrun'], ha⟩

/-! ### The session -/

/-- A look at the state says what it is. -/
theorem state {f : S → Task τ S ε α} (hf : ∀ s, p s → Gives (· = s) (f s) q) :
    Gives p (do f (← Task.state)) q := by
  intro s hs
  exact hf s.state hs s rfl

theorem note (r : Log.Record) {t : Task τ S ε α} (ht : Gives p t q) :
    Gives p (do Task.note r; t) q := by
  intro s hs
  exact ht { s with log := s.log.push r } hs

theorem noteAll (records : List Log.Record) {t : Task τ S ε α} (ht : Gives p t q) :
    Gives p (do Task.noteAll records; t) q := by
  induction records with
  | nil => exact ht
  | cons r rest ih =>
      intro s hs
      exact ih { s with log := s.log.push r } hs

theorem setState (state : S) {t : Task τ S ε α} (ht : Gives (· = state) t q) :
    Gives p (do Task.setState state; t) q := by
  intro s _
  exact ht { s with state } rfl

theorem settle {result : Except ε α} {a : α} (hresult : result = .ok a) (h : ∀ s, p s → q a s) :
    Gives p (settle result : Task τ S ε α) q := by
  intro s hs
  exact ⟨a, s, by rw [hresult]; rfl, h _ hs⟩

/-- A task on a part of the state leaves the rest as it was. -/
theorem within {T : Type} {part : S → T} {put : T → S → S} {p : T → Prop} {q : α → T → Prop}
    {t : Task τ T ε α} (ht : Gives p t q) :
    Gives (fun s => p (part s)) (t.within part put) fun a s => ∃ x s₀, q a x ∧ s = put x s₀ := by
  intro s hs
  let inner : Session τ T := { s with state := part s.state }
  obtain ⟨a, s', hrun, ha⟩ := ht inner hs
  refine ⟨a, { s' with state := put s'.state s.state }, ?_, s'.state, s.state, ha, rfl⟩
  change ((t.start inner).1,
    { (t.start inner).2 with state := put (t.start inner).2.state s.state }) = _
  rw [hrun]

end Task.Gives

end CpeMatch.Timing
