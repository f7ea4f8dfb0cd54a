import CpeMatch.Proofs.Timing.Task
import CpeMatch.Timing.Activity
import Mathlib.Algebra.Order.Ring.Rat
import Mathlib.Tactic.Linarith

/-!
**Each block of nested work is recorded once.**

In work without looks at the summary every block is entered, since failures are handled where they stand.  How
many readings of the clock come before a block is entered and before it is left can therefore be told from the
work alone: a block takes two readings besides those of the work inside it, and so does a call, but one that
fails takes only one.  A run records the blocks in the order in which they are left, each with the time between
its own two readings.

Main definitions:

* `CpeMatch.Timing.readingsOf`, `CpeMatch.Timing.blocksOf` — how many readings work takes, and how many blocks
  it has;
* `CpeMatch.Timing.Span`, `CpeMatch.Timing.spansOf` — a block with the places of its two readings, and the blocks
  of work;
* `CpeMatch.Timing.leavingAll` — blocks and all blocks inside them, in the order in which they are left;
* `CpeMatch.Timing.outcomesOf`, `CpeMatch.Timing.announcementsOf` — what work ends with, and what it writes to
  the log.

Main results:

* `CpeMatch.Timing.runAll_of_areUnobserved` — **what a run does**, as an equation;
* `CpeMatch.Timing.sum_time_inside_le` — a block lasts at least as long as the blocks directly inside it together;
* `CpeMatch.Timing.blocks_recorded_once` — **one record for each block**, in the order of leaving.
-/

set_option autoImplicit false

namespace CpeMatch.Timing

variable {τ β : Type}

/-! ### Work -/

mutual

/-- Whether a part of work consists of blocks and calls only, and no summary is looked at in it. -/
def Activity.isUnobserved : Activity τ β → Bool
  | .block _ inside _ _ => areUnobserved inside
  | .announced _ inside _ _ => areUnobserved inside
  | .look _ => false

/-- Whether parts of work consist of blocks and calls only. -/
def areUnobserved : List (Activity τ β) → Bool
  | [] => true
  | a :: rest => a.isUnobserved && areUnobserved rest

end

mutual

/-- The number of readings of the clock that a part of work takes. -/
def Activity.readings : Activity τ β → Nat
  | .block _ inside _ _ => readingsOf inside + 2
  | .announced _ inside _ failure => readingsOf inside + if failure.isNone then 2 else 1
  | .look _ => 0

/-- The number of readings of the clock that parts of work take. -/
def readingsOf : List (Activity τ β) → Nat
  | [] => 0
  | a :: rest => a.readings + readingsOf rest

end

mutual

/-- The number of blocks in a part of work. -/
def Activity.blocks : Activity τ β → Nat
  | .block _ inside _ _ => blocksOf inside + 1
  | .announced _ inside _ _ => blocksOf inside
  | .look _ => 0

/-- The number of blocks in parts of work. -/
def blocksOf : List (Activity τ β) → Nat
  | [] => 0
  | a :: rest => a.blocks + blocksOf rest

end

/-- What holds of no work, and of a part of work and others behind it if it holds of what is inside the part and
of the others, holds of all work. -/
@[elab_as_elim]
theorem work_induction {motive : List (Activity τ β) → Prop} (nil : motive [])
    (block : ∀ name inside items failure rest, motive inside → motive rest →
      motive (.block name inside items failure :: rest))
    (announced : ∀ name inside value failure rest, motive inside → motive rest →
      motive (.announced name inside value failure :: rest))
    (look : ∀ view rest, motive rest → motive (.look view :: rest)) : ∀ work, motive work
  | [] => nil
  | .block name inside items failure :: rest =>
    block name inside items failure rest (work_induction nil block announced look inside)
      (work_induction nil block announced look rest)
  | .announced name inside value failure :: rest =>
    announced name inside value failure rest (work_induction nil block announced look inside)
      (work_induction nil block announced look rest)
  | .look view :: rest => look view rest (work_induction nil block announced look rest)

/-! ### Blocks and their places -/

/-- A block as it stands in a run: which readings of the clock are taken when it is entered and when it is left,
and the blocks directly inside it. -/
structure Span where
  operation : Text
  items : Number
  entered : Nat
  left : Nat
  inside : List Span

mutual

/-- A block behind all blocks inside it, in the order in which they are left. -/
def Span.leaving : Span → List Span
  | ⟨operation, items, entered, left, inside⟩ =>
    leavingAll inside ++ [⟨operation, items, entered, left, inside⟩]

/-- Blocks and all blocks inside them, in the order in which they are left. -/
def leavingAll : List Span → List Span
  | [] => []
  | s :: rest => s.leaving ++ leavingAll rest

end

mutual

/-- The blocks of a part of work that are inside no other of its blocks, when the next reading of the clock is
the `n`-th. -/
def Activity.spans (n : Nat) : Activity τ β → List Span
  | .block name inside items _ =>
    [⟨name, items, n, n + 1 + readingsOf inside, spansOf (n + 1) inside⟩]
  | .announced _ inside _ _ => spansOf (n + 1) inside
  | .look _ => []

/-- The blocks of parts of work that are inside no other of their blocks. -/
def spansOf (n : Nat) : List (Activity τ β) → List Span
  | [] => []
  | a :: rest => a.spans n ++ spansOf (n + a.readings) rest

end

theorem Span.leaving_eq (s : Span) : s.leaving = leavingAll s.inside ++ [s] := by
  cases s
  rfl

theorem leavingAll_append (spans others : List Span) :
    leavingAll (spans ++ others) = leavingAll spans ++ leavingAll others := by
  induction spans with
  | nil => rfl
  | cons s rest ih => rw [List.cons_append, leavingAll, leavingAll, ih, List.append_assoc]

section

variable (n : Nat) (name : Text) (inside : List (Activity τ β)) (failure : Option Text)
  (rest : List (Activity τ β))

theorem spansOf_block (items : Number) :
    spansOf n (.block name inside items failure :: rest) =
      ⟨name, items, n, n + 1 + readingsOf inside, spansOf (n + 1) inside⟩ ::
        spansOf (n + (readingsOf inside + 2)) rest := rfl

theorem spansOf_announced (value : β) :
    spansOf n (.announced name inside value failure :: rest) =
      spansOf (n + 1) inside ++
        spansOf (n + (readingsOf inside + if failure.isNone then 2 else 1)) rest := rfl

theorem leavingAll_spansOf_block (items : Number) :
    leavingAll (spansOf n (.block name inside items failure :: rest)) =
      leavingAll (spansOf (n + 1) inside) ++
        ⟨name, items, n, n + 1 + readingsOf inside, spansOf (n + 1) inside⟩ ::
          leavingAll (spansOf (n + (readingsOf inside + 2)) rest) := by
  rw [spansOf_block, leavingAll, Span.leaving_eq, List.append_assoc, List.singleton_append]

theorem leavingAll_spansOf_announced (value : β) :
    leavingAll (spansOf n (.announced name inside value failure :: rest)) =
      leavingAll (spansOf (n + 1) inside) ++
        leavingAll (spansOf (n + (readingsOf inside + if failure.isNone then 2 else 1)) rest) := by
  rw [spansOf_announced, leavingAll_append]

theorem spansOf_look (view : Option (Summary τ) → Except Fault β) :
    spansOf n (.look view :: rest) = spansOf n rest := rfl

end

/-- Each block of work is left once. -/
theorem length_leavingAll (work : List (Activity τ β)) (n : Nat) :
    (leavingAll (spansOf n work)).length = blocksOf work := by
  induction work using work_induction generalizing n with
  | nil => rfl
  | block name inside items failure rest ihInside ihRest =>
      rw [leavingAll_spansOf_block, List.length_append, List.length_cons, ihInside, ihRest, blocksOf,
        Activity.blocks]
      omega
  | announced name inside value failure rest ihInside ihRest =>
      rw [leavingAll_spansOf_announced, List.length_append, ihInside, ihRest, blocksOf, Activity.blocks]
  | look view rest ih => rw [spansOf_look, ih, blocksOf, Activity.blocks, Nat.zero_add]

/-- A block of work is entered and left within the readings that the work takes, and has work of its own between
its two readings. -/
theorem of_mem_leavingAll (work : List (Activity τ β)) (n : Nat) {b : Span}
    (hb : b ∈ leavingAll (spansOf n work)) :
    n ≤ b.entered ∧ b.left < n + readingsOf work ∧
      ∃ inside : List (Activity τ β),
        b.inside = spansOf (b.entered + 1) inside ∧ b.left = b.entered + 1 + readingsOf inside := by
  induction work using work_induction generalizing n with
  | nil => exact absurd hb List.not_mem_nil
  | block name inside items failure rest ihInside ihRest =>
      rw [readingsOf, Activity.readings]
      rw [leavingAll_spansOf_block, List.mem_append, List.mem_cons] at hb
      obtain hb | rfl | hb := hb
      · obtain ⟨hentered, hleft, hown⟩ := ihInside _ hb
        exact ⟨by omega, by omega, hown⟩
      · exact ⟨le_rfl, by dsimp only; omega, inside, rfl, rfl⟩
      · obtain ⟨hentered, hleft, hown⟩ := ihRest _ hb
        exact ⟨by omega, by omega, hown⟩
  | announced name inside value failure rest ihInside ihRest =>
      rw [readingsOf, Activity.readings]
      rw [leavingAll_spansOf_announced, List.mem_append] at hb
      obtain hb | hb := hb
      · obtain ⟨hentered, hleft, hown⟩ := ihInside _ hb
        refine ⟨by omega, ?_, hown⟩
        split <;> omega
      · obtain ⟨hentered, hleft, hown⟩ := ihRest _ hb
        exact ⟨by omega, by omega, hown⟩
  | look view rest ih =>
      rw [readingsOf, Activity.readings, Nat.zero_add]
      exact ih n hb

/-- The order in which blocks are left is that of the readings taken then. -/
theorem pairwise_leavingAll (work : List (Activity τ β)) (n : Nat) :
    (leavingAll (spansOf n work)).Pairwise fun b b' => b.left < b'.left := by
  induction work using work_induction generalizing n with
  | nil => exact .nil
  | block name inside items failure rest ihInside ihRest =>
      rw [leavingAll_spansOf_block, List.pairwise_append, List.pairwise_cons]
      refine ⟨ihInside _, ⟨?_, ihRest _⟩, ?_⟩
      -- all that comes behind the block is entered when it has been left
      · intro b hb
        obtain ⟨hentered, -, own, -, hleft⟩ := of_mem_leavingAll rest _ hb
        dsimp only
        omega
      · intro b hb b' hb'
        obtain ⟨-, hbefore, -⟩ := of_mem_leavingAll inside _ hb
        obtain rfl | hb' := List.mem_cons.1 hb'
        · exact hbefore
        · obtain ⟨hentered, -, own, -, hleft⟩ := of_mem_leavingAll rest _ hb'
          omega
  | announced name inside value failure rest ihInside ihRest =>
      rw [leavingAll_spansOf_announced, List.pairwise_append]
      refine ⟨ihInside _, ihRest _, ?_⟩
      intro b hb b' hb'
      obtain ⟨-, hbefore, -⟩ := of_mem_leavingAll inside _ hb
      obtain ⟨hentered, -, own, -, hleft⟩ := of_mem_leavingAll rest _ hb'
      split at hentered <;> omega
  | look view rest ih => exact ih n

theorem mem_leavingAll_of_mem {s : Span} {spans : List Span} (h : s ∈ spans) : s ∈ leavingAll spans := by
  induction spans with
  | nil => exact h
  | cons first rest ih =>
      rw [leavingAll, Span.leaving_eq]
      obtain rfl | h := List.mem_cons.1 h
      · exact List.mem_append_left _ (List.mem_append_right _ (List.mem_singleton_self _))
      · exact List.mem_append_right _ (ih h)

/-- Of blocks that are not inside each other each is left before the next is entered. -/
theorem pairwise_spansOf (work : List (Activity τ β)) (n : Nat) :
    (spansOf n work).Pairwise fun b b' => b.left < b'.entered := by
  induction work using work_induction generalizing n with
  | nil => exact .nil
  | block name inside items failure rest ihInside ihRest =>
      rw [spansOf_block, List.pairwise_cons]
      refine ⟨?_, ihRest _⟩
      intro b hb
      obtain ⟨hentered, -⟩ := of_mem_leavingAll rest _ (mem_leavingAll_of_mem hb)
      dsimp only
      omega
  | announced name inside value failure rest ihInside ihRest =>
      rw [spansOf_announced, List.pairwise_append]
      refine ⟨ihInside _, ihRest _, ?_⟩
      intro b hb b' hb'
      obtain ⟨-, hbefore, -⟩ := of_mem_leavingAll inside _ (mem_leavingAll_of_mem hb)
      obtain ⟨hentered, -⟩ := of_mem_leavingAll rest _ (mem_leavingAll_of_mem hb')
      split at hentered <;> omega
  | look view rest ih => exact ih n

/-- A block of work is entered before it is left, and each block directly inside it is entered and left between
these, and left before the next is entered. -/
theorem inside_of_mem_leavingAll {work : List (Activity τ β)} {n : Nat} {b : Span}
    (hb : b ∈ leavingAll (spansOf n work)) :
    b.entered < b.left ∧
      (∀ i ∈ b.inside, b.entered < i.entered ∧ i.entered < i.left ∧ i.left < b.left) ∧
      b.inside.Pairwise fun i i' => i.left < i'.entered := by
  obtain ⟨-, -, own, hinside, hleft⟩ := of_mem_leavingAll work n hb
  rw [hinside, hleft]
  refine ⟨by omega, ?_, pairwise_spansOf own _⟩
  intro i hi
  obtain ⟨hentered, hbefore, others, -, hspan⟩ := of_mem_leavingAll own _ (mem_leavingAll_of_mem hi)
  omega

/-! ### Times -/

section

variable [Duration τ]

/-- The time of a block. -/
def Span.time (reading : Nat → τ) (s : Span) : τ := Duration.sub (reading s.left) (reading s.entered)

/-- What is recorded of a block. -/
def Span.metric (reading : Nat → τ) (s : Span) : Metric τ := ⟨s.operation, s.time reading, s.items⟩

end

/-- Blocks that are left before the next is entered last no longer than all the time that they are in. -/
theorem sum_time_le {reading : Nat → Rat} (hreading : Monotone reading) {spans : List Span} {lo hi : Nat}
    (hle : lo ≤ hi) (hbounds : ∀ s ∈ spans, lo ≤ s.entered ∧ s.entered < s.left ∧ s.left ≤ hi)
    (hpairwise : spans.Pairwise fun s s' => s.left < s'.entered) :
    (spans.map (Span.time reading)).sum ≤ reading hi - reading lo := by
  induction spans generalizing lo with
  | nil => exact sub_nonneg.2 (hreading hle)
  | cons s rest ih =>
      obtain ⟨hafter, hpairwise⟩ := List.pairwise_cons.1 hpairwise
      obtain ⟨hentered, -, hleft⟩ := hbounds s List.mem_cons_self
      have hrest : (rest.map (Span.time reading)).sum ≤ reading hi - reading s.left := by
        refine ih hleft ?_ hpairwise
        intro s' hs'
        obtain ⟨-, hspan, hleft'⟩ := hbounds s' (List.mem_cons_of_mem _ hs')
        exact ⟨(hafter s' hs').le, hspan, hleft'⟩
      have hstart : reading lo ≤ reading s.entered := hreading hentered
      have htime : s.time reading = reading s.left - reading s.entered := rfl
      rw [List.map_cons, List.sum_cons, htime]
      linarith

/-- With a clock that never goes back a block of work lasts at least as long as all blocks directly inside it. -/
theorem sum_time_inside_le {reading : Nat → Rat} (hreading : Monotone reading) {work : List (Activity τ β)}
    {n : Nat} {b : Span} (hb : b ∈ leavingAll (spansOf n work)) :
    (b.inside.map (Span.time reading)).sum ≤ b.time reading := by
  obtain ⟨hspan, hbounds, hpairwise⟩ := inside_of_mem_leavingAll hb
  refine sum_time_le hreading hspan.le ?_ hpairwise
  intro i hi
  obtain ⟨hentered, hown, hleft⟩ := hbounds i hi
  exact ⟨hentered.le, hown, hleft.le⟩

/-! ### What is recorded -/

/-- A monitor in which blocks have been recorded one after another. -/
def Monitor.recordAll (metrics : List (Metric τ)) (m : Monitor τ) : Monitor τ :=
  metrics.foldl (fun m metric => m.record metric) m

namespace Monitor

@[simp] theorem recordAll_nil (m : Monitor τ) : m.recordAll [] = m := rfl

@[simp] theorem recordAll_cons (metric : Metric τ) (metrics : List (Metric τ)) (m : Monitor τ) :
    m.recordAll (metric :: metrics) = (m.record metric).recordAll metrics := rfl

@[simp] theorem recordAll_append (metrics others : List (Metric τ)) (m : Monitor τ) :
    m.recordAll (metrics ++ others) = (m.recordAll metrics).recordAll others := List.foldl_append

theorem enabled_recordAll (metrics : List (Metric τ)) (m : Monitor τ) :
    (m.recordAll metrics).enabled = m.enabled := by
  induction metrics generalizing m with
  | nil => rfl
  | cons metric rest ih => rw [recordAll_cons, ih, enabled_record]

theorem metrics_recordAll (metrics : List (Metric τ)) {m : Monitor τ} (h : m.enabled = true) :
    (m.recordAll metrics).metrics.toList = m.metrics.toList ++ metrics := by
  induction metrics generalizing m with
  | nil => rw [recordAll_nil, List.append_nil]
  | cons metric rest ih =>
      rw [recordAll_cons, ih ((enabled_record metric m).trans h), metrics_record metric h, List.append_assoc,
        List.singleton_append]

theorem recordAll_of_disabled (metrics : List (Metric τ)) {m : Monitor τ} (h : m.enabled = false) :
    m.recordAll metrics = m := by
  have hrecord (metric : Metric τ) : m.record metric = m :=
    if_neg (by rw [h]; exact Bool.false_ne_true)
  induction metrics with
  | nil => rfl
  | cons metric rest ih => rw [recordAll_cons, hrecord, ih]

end Monitor

/-! ### What work ends with -/

section

variable [Duration τ] (show4 : τ → Text) (announcing : Bool) (reading : Nat → τ)

/-- What is written to the log at the end of a call that was made with the `n`-th reading and held work with the
given number of readings. -/
def announcementAfter (n inside : Nat) (name : Text) : Option Text → List Log.Record
  | some _ => []
  | none =>
    if announcing then
      [announcement name (show4 (Duration.sub (reading (n + 1 + inside)) (reading n)))]
    else []

mutual

/-- What a part of work writes to the log. -/
def Activity.announcements (n : Nat) : Activity τ β → List Log.Record
  | .block _ inside _ _ => announcementsOf (n + 1) inside
  | .announced name inside _ failure =>
    announcementsOf (n + 1) inside ++
      announcementAfter show4 announcing reading n (readingsOf inside) name failure
  | .look _ => []

/-- What parts of work write to the log. -/
def announcementsOf (n : Nat) : List (Activity τ β) → List Log.Record
  | [] => []
  | a :: rest => a.announcements n ++ announcementsOf (n + a.readings) rest

end

/-- What a block ends with that was entered with the `n`-th reading and held work with the given number of
readings. -/
def blockOutcome (n inside : Nat) (items : Number) : Option Text → Outcome τ β
  | some message => .blockFailed (.step message)
  | none => .timed (Duration.sub (reading (n + 1 + inside)) (reading n)) items

/-- What a call ends with that has written the given records. -/
def callOutcome (value : β) (records : List Log.Record) : Option Text → Outcome τ β
  | some message => .callFailed (.step message) records
  | none => .returned value records

mutual

/-- What a part of work and all parts inside it end with, in the order in which they end. -/
def Activity.outcomes (n : Nat) : Activity τ β → List (Outcome τ β)
  | .block _ inside items failure =>
    outcomesOf (n + 1) inside ++ [blockOutcome reading n (readingsOf inside) items failure]
  | .announced name inside value failure =>
    outcomesOf (n + 1) inside ++
      [callOutcome value (announcementsOf show4 announcing reading (n + 1) inside ++
        announcementAfter show4 announcing reading n (readingsOf inside) name failure) failure]
  | .look _ => []

/-- What parts of work and all parts inside them end with, in the order in which they end. -/
def outcomesOf (n : Nat) : List (Activity τ β) → List (Outcome τ β)
  | [] => []
  | a :: rest => a.outcomes n ++ outcomesOf (n + a.readings) rest

end

end

/-! ### Running work -/

/-- The session in which the clock has been read, records have been written to the log and blocks have been
recorded. -/
def Session.after (readings : Nat) (records : List Log.Record) (metrics : List (Metric τ))
    (s : Session τ (Monitor τ)) : Session τ (Monitor τ) :=
  { s with
    clock := { s.clock with taken := s.clock.taken + readings }
    log := s.log ++ records.toArray
    state := s.state.recordAll metrics }

theorem Session.after_zero (s : Session τ (Monitor τ)) : s.after 0 [] [] = s := by
  simp [after]

theorem Session.after_after (readings others : Nat) (records later : List Log.Record)
    (metrics further : List (Metric τ)) (s : Session τ (Monitor τ)) :
    (s.after readings records metrics).after others later further =
      s.after (readings + others) (records ++ later) (metrics ++ further) := by
  simp [after, Nat.add_assoc]

/-- The session at the start of a block or call, when one reading has been taken. -/
theorem Session.start_eq_after (s : Session τ (Monitor τ)) :
    { s with clock := s.clock.take.2 } = s.after 1 [] [] := by
  simp [after, Clock.take]

theorem logSince_after (readings : Nat) (records : List Log.Record) (metrics : List (Metric τ))
    (s : Session τ (Monitor τ)) : logSince s.log.size (s.after readings records metrics) = records := by
  simp [logSince, Session.after]

section

variable [Duration τ]

/-- Behind a part of work that lets the others go on these run from where it has ended. -/
theorem runAll_cons {show4 : τ → Text} {a : Activity τ β} {outcomes : List (Outcome τ β)}
    {s s' : Session τ (Monitor τ)} (h : a.run show4 s = (⟨outcomes, none⟩, s')) (rest : List (Activity τ β)) :
    runAll show4 (a :: rest) s =
      (⟨outcomes ++ (runAll show4 rest s').1.outcomes, (runAll show4 rest s').1.fault⟩,
        (runAll show4 rest s').2) := by
  rw [runAll]
  simp only [h]
  rfl

/-- The session at the end of a call that is announced. -/
theorem Session.announce_after (show4 : τ → Text) (name : Text) (readings : Nat) (records : List Log.Record)
    (metrics : List (Metric τ)) (s : Session τ (Monitor τ)) :
    let s' := s.after (1 + readings) records metrics
    { s' with
      clock := s'.clock.take.2
      log := if s'.announcing then
          s'.log.push (announcement name (show4 (Duration.sub s'.clock.take.1 s.clock.take.1)))
        else s'.log } =
      s.after (readings + 2) (records ++
        announcementAfter show4 s.announcing s.clock.reading s.clock.taken readings name none) metrics := by
  cases hannouncing : s.announcing <;>
  simp [after, announcementAfter, hannouncing, Clock.take, Nat.add_assoc, Nat.add_comm 1]

section

variable {inside : StateM (Session τ (Monitor τ)) (Course τ β)} {outcomes : List (Outcome τ β)}
  {readings : Nat} {records : List Log.Record} {metrics : List (Metric τ)} {s : Session τ (Monitor τ)}
  (h : inside (s.after 1 [] []) = (⟨outcomes, none⟩, (s.after 1 [] []).after readings records metrics))
  (show4 : τ → Text) (name : Text) (failure : Option Text)

include h

/-- A block is recorded whether it fails at its end or not. -/
theorem runBlock_of_none (items : Number) :
    runBlock name items failure inside s =
      (⟨outcomes ++ [blockOutcome s.clock.reading s.clock.taken readings items failure], none⟩,
        s.after (readings + 2) records (metrics ++ [⟨name,
          Duration.sub (s.clock.reading (s.clock.taken + 1 + readings)) (s.clock.reading s.clock.taken),
          items⟩])) := by
  have hbody : (blockTask items inside).start { s with clock := s.clock.take.2 } =
      (.ok (items, .ok ⟨outcomes, none⟩), (s.after 1 [] []).after readings records metrics) := by
    rw [s.start_eq_after]
    change (_, _) = _
    rw [h]
    rfl
  rw [runBlock, Task.start_measure hbody]
  refine Prod.ext ?_ ?_
  · cases failure <;> rfl
  · simp [Session.after, Clock.take, Nat.add_assoc, Nat.add_comm 1]

/-- A call takes a reading at its end and is announced, unless it fails. -/
theorem runCall_of_none (value : β) :
    let announced := announcementAfter show4 s.announcing s.clock.reading s.clock.taken readings name failure
    runCall show4 name value failure inside s =
      (⟨outcomes ++ [callOutcome value (records ++ announced) failure], none⟩,
        s.after (readings + if failure.isNone then 2 else 1) (records ++ announced) metrics) := by
  intro announced
  have hbody : (callTask failure inside).start { s with clock := s.clock.take.2 } =
      (Course.ending failure ⟨outcomes, none⟩, (s.after 1 [] []).after readings records metrics) := by
    rw [s.start_eq_after]
    change (_, _) = _
    rw [h]
  rw [Session.after_after] at hbody
  cases failure with
  | some message =>
      -- no reading is taken at the end, and nothing announced
      have hend : s.after (1 + readings) ([] ++ records) ([] ++ metrics) =
          s.after (readings + 1) (records ++ announced) metrics := by
        rw [Nat.add_comm 1, show announced = [] from rfl, List.append_nil]
        rfl
      rw [runCall, Task.start_announced_error hbody, hend]
      simp [Course.failCall, Fault.isForeseen, logSince_after, callOutcome]
  | none =>
      rw [runCall, Task.start_announced hbody, Session.announce_after]
      simp [announced, logSince_after, callOutcome]

end

/-- **What a run does.**  Nothing keeps work without looks from going on, and what it ends with, the readings it
takes, the records it writes and the blocks it leaves are those that can be told from the work. -/
theorem runAll_of_areUnobserved (show4 : τ → Text) {work : List (Activity τ β)}
    (hwork : areUnobserved work = true) (s : Session τ (Monitor τ)) :
    runAll show4 work s =
      (⟨outcomesOf show4 s.announcing s.clock.reading s.clock.taken work, none⟩,
        s.after (readingsOf work)
          (announcementsOf show4 s.announcing s.clock.reading s.clock.taken work)
          ((leavingAll (spansOf s.clock.taken work)).map (Span.metric s.clock.reading))) := by
  induction work using work_induction generalizing s with
  | nil => exact congrArg _ s.after_zero.symm
  | block name inside items failure rest ihInside ihRest =>
      rw [areUnobserved, Activity.isUnobserved, Bool.and_eq_true] at hwork
      -- the work inside starts behind the reading that the block is entered with
      have hrun := runBlock_of_none (ihInside hwork.1 (s.after 1 [] [])) name failure items
      rw [← Activity.run] at hrun
      rw [runAll_cons hrun, ihRest hwork.2, Session.after_after, leavingAll_spansOf_block]
      simp [outcomesOf, Activity.outcomes, announcementsOf, Activity.announcements, readingsOf,
        Activity.readings, Session.after, Span.metric, Span.time]
  | announced name inside value failure rest ihInside ihRest =>
      rw [areUnobserved, Activity.isUnobserved, Bool.and_eq_true] at hwork
      have hrun := runCall_of_none (ihInside hwork.1 (s.after 1 [] [])) show4 name failure value
      rw [← Activity.run] at hrun
      rw [runAll_cons hrun, ihRest hwork.2, Session.after_after, leavingAll_spansOf_announced]
      simp [outcomesOf, Activity.outcomes, announcementsOf, Activity.announcements, readingsOf,
        Activity.readings, Session.after]
  | look view rest ih =>
      -- what a look ends with depends on the blocks recorded so far
      exact absurd hwork Bool.false_ne_true

/-- **Each block is recorded once.**  Work without looks is done to its end, takes the readings that it has, and
records all its blocks behind what was recorded before, in the order in which they are left, each with the time
between its two readings and the items set in it.  A block stands between its two readings with all that is inside
it, and if the clock never goes back it lasts at least as long as the blocks directly inside it together.  With a
monitor that is not enabled the run is the same, but nothing is recorded. -/
theorem blocks_recorded_once (show4 : τ → Text) {work : List (Activity τ β)}
    (hwork : areUnobserved work = true) {session : Session τ (Monitor τ)}
    (henabled : session.state.enabled = true) :
    let n := session.clock.taken
    let reading := session.clock.reading
    let blocks := leavingAll (spansOf n work)
    let course := (runAll show4 work session).1
    let after := (runAll show4 work session).2
    course = ⟨outcomesOf show4 session.announcing reading n work, none⟩ ∧
    after.clock = ⟨reading, n + readingsOf work⟩ ∧
    after.log =
      session.log ++ (announcementsOf show4 session.announcing reading n work).toArray ∧
    after.state.enabled = true ∧
    after.state.metrics.toList = session.state.metrics.toList ++ blocks.map (Span.metric reading) ∧
    blocks.length = blocksOf work ∧
    blocks.Pairwise (fun b b' => b.left < b'.left) ∧
    (∀ b ∈ blocks, n ≤ b.entered ∧ b.entered < b.left ∧ b.left < n + readingsOf work ∧
      (∀ i ∈ b.inside, b.entered < i.entered ∧ i.entered < i.left ∧ i.left < b.left) ∧
      b.inside.Pairwise fun i i' => i.left < i'.entered) ∧
    (∀ exact : Nat → Rat, Monotone exact →
      ∀ b ∈ blocks, (b.inside.map (Span.time exact)).sum ≤ b.time exact) ∧
    ∀ m : Monitor τ, m.enabled = false →
      runAll show4 work { session with state := m } = (course, { after with state := m }) := by
  intro n reading blocks course after
  have hrun := runAll_of_areUnobserved show4 hwork session
  have hafter : after = session.after (readingsOf work) _ _ := congrArg Prod.snd hrun
  refine ⟨congrArg Prod.fst hrun, ?_, ?_, ?_, ?_, length_leavingAll work n, pairwise_leavingAll work n, ?_, ?_, ?_⟩
  · rw [hafter]
    rfl
  · rw [hafter]
    rfl
  · rw [hafter]
    exact (Monitor.enabled_recordAll _ _).trans henabled
  · rw [hafter]
    exact Monitor.metrics_recordAll _ henabled
  · intro b hb
    obtain ⟨hentered, hleft, -⟩ := of_mem_leavingAll work n hb
    obtain ⟨hspan, hinside, hapart⟩ := inside_of_mem_leavingAll hb
    exact ⟨hentered, hspan, hleft, hinside, hapart⟩
  · intro exact hexact b hb
    exact sum_time_inside_le hexact hb
  · intro m hdisabled
    -- the monitor shows in what is recorded only
    have hsilent := runAll_of_areUnobserved show4 hwork { session with state := m }
    rw [hsilent]
    refine Prod.ext (congrArg Prod.fst hrun).symm ?_
    rw [hafter]
    simp only [Session.after, Monitor.recordAll_of_disabled _ hdisabled]

/-- A block with a block that fails, a call with a block inside it, and a call that fails, and another block. -/
theorem blocks_recorded_once_twoDeep :
    let work : List (Activity Rat Nat) :=
      [.block "outer" [.block "inner" [] (.whole 2) (some "bad"),
          .announced "called" [.block "deep" [] (.whole 1) none] 7 none, .call "failing" 8 (some "no")]
        (.whole 5) none,
        .block "last" [] (.whole 0) none]
    let session : Session Rat (Monitor Rat) := ⟨⟨fun n => n, 3⟩, true, #[], .fresh true⟩
    areUnobserved work = true ∧ session.state.enabled = true ∧
      (runAll (fun _ => "1") work session).2.clock.taken = 14 ∧
      (runAll (fun _ => "1") work session).2.state.metrics.toList =
        [⟨"inner", 1, .whole 2⟩, ⟨"deep", 1, .whole 1⟩, ⟨"outer", 8, .whole 5⟩, ⟨"last", 1, .whole 0⟩] := by
  intro work session
  have hwork : areUnobserved work = true := rfl
  have henabled : session.state.enabled = true := rfl
  obtain ⟨-, hclock, -, -, hmetrics, -⟩ := blocks_recorded_once (fun _ => "1") hwork henabled
  refine ⟨hwork, henabled, ?_, ?_⟩
  · rw [hclock]
    rfl
  · rw [hmetrics]
    change [(⟨"inner", (5 : Nat) - (4 : Nat), .whole 2⟩ : Metric Rat),
      ⟨"deep", (8 : Nat) - (7 : Nat), .whole 1⟩, ⟨"outer", (11 : Nat) - (3 : Nat), .whole 5⟩,
      ⟨"last", (13 : Nat) - (12 : Nat), .whole 0⟩] = _
    norm_num

end

end CpeMatch.Timing
