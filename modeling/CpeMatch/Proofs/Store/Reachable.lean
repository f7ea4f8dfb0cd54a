import CpeMatch.Proofs.Store.History
import CpeMatch.Proofs.Timing.Agreement

/-!
**The states of a store.**

A store is made for the data at a place, or with given data, or empty.  From then on it is loaded, added to
and asked.  Whatever is done to it, in whatever order and with whatever faults, the rows of its index can be
read, as long as the vulnerabilities that are added have texts as the ids of their rows.

Main definitions:

* `CpeMatch.Store.Deed.AddsTexts` — the deed adds no rows whose ids are no texts;
* `CpeMatch.Store.Reachable` — the states that a store can be in.

Main results:

* `CpeMatch.Store.keeps_ask`, `CpeMatch.Store.leads_ask` — what lasts when a store is loaded also lasts
  when it is asked, and the answer;
* `CpeMatch.Store.Legible.run` — one deed;
* `CpeMatch.Store.Reachable.legible` — **the rows of a store can be read in every state**.
-/

set_option autoImplicit false

namespace CpeMatch.Store

open Files Timing

/-! ### Loading and asking -/

/-- A store without a place for its data is left as it is when it is loaded. -/
theorem start_load_of_config_eq_none {session : Session Float Store} (h : session.state.config = none)
    (tree : Tree) : ((load tree).start session).2.state = session.state := by
  let entered : Session Float Store := { session with clock := session.clock.take.2 }
  have hcall : (announcedLoad tree).start entered = (.ok session.state.held.size, entered) := by
    rw [announcedLoad, Task.start_bind (Task.start_state entered)]
    simp only [entered, h]
    rfl
  rw [load_eq_announced, Task.start_announced hcall]

section

variable {p : Store → Prop} {tree : Tree} (hload : Task.Keeps p (load tree))

include hload

theorem keeps_ensureLoaded : Task.Keeps p (ensureLoaded tree) := by
  refine Task.Keeps.state.bind ?_
  intro s
  cases s.loaded with
  | true => exact Task.Keeps.pure ()
  | false => exact hload.bind fun _ => Task.Keeps.pure ()

/-- What lasts when a store is loaded also lasts when it is asked. -/
theorem keeps_ask {α : Type} (question : Store → Except Fault α) : Task.Keeps p (ask tree question) :=
  (keeps_ensureLoaded hload).bind fun _ => Task.Keeps.state.bind fun s => Task.Keeps.settle (question s)

/-- An answer is that of the store as it has been left. -/
theorem leads_ask {α : Type} (question : Store → Except Fault α) :
    Task.Leads p (ask tree question) fun a s => p s ∧ question s = .ok a := by
  refine (keeps_ensureLoaded hload).leads.bind ?_
  intro _ session hs a session' hrun
  obtain ⟨hanswer, rfl⟩ := Prod.mk.inj hrun
  exact ⟨hs, hanswer⟩

end

/-! ### Rows that can be read -/

namespace Legible

/-- A load leaves rows that can be read, also where it fails. -/
theorem keeps_load (tree : Tree) : Task.Keeps Legible (load tree) := by
  intro session hs
  cases hconfig : session.state.config with
  | none =>
      rw [start_load_of_config_eq_none hconfig]
      exact hs
  | some config =>
      -- also a load that fails leaves what it has taken in by then
      have htaken : (absorbPath tree session.state config).store.Legible :=
        keptByAdding_legible.absorbPath hs config
      obtain ⟨metric, _, ⟨_, _, _, hstate⟩ | ⟨_, _, hstate⟩⟩ := load_cases hconfig tree
      · rw [hstate]
        exact htaken.of_index_eq rfl
      · rw [hstate]
        exact htaken.of_index_eq rfl

end Legible

/-- If the deed adds a vulnerability, the ids of its rows are texts. -/
def Deed.AddsTexts : Deed → Prop
  | add v => ∀ r ∈ v.software, ∃ id, r.id = .string id
  | load _ => True
  | pose _ _ => True

/-- **One deed** leaves rows that can be read, also where it fails. -/
theorem Legible.run {session : Session Float Store} (hs : session.state.Legible) {d : Deed}
    (hd : d.AddsTexts) : (d.run session).state.Legible := by
  cases d with
  | load tree => exact keeps_load tree session hs
  | add v =>
      rw [Deed.state_run_add]
      exact hs.add hd
  | pose tree q =>
      rw [Deed.run, q.pose_eq_ask]
      exact keeps_ask (keeps_load tree) q.answer session hs

/-! ### The states of a store -/

/-- The states that a store can be in: it is made for the data at a path, or with given data, or empty, and
then one thing after another is done to it. -/
inductive Reachable : Store → Prop where
  | configured {tree : Tree} {path pattern : Text} {s : Store} (h : configure tree path pattern = .ok s) :
      Reachable s
  | empty : Reachable (empty none)
  | ofRecords {data : List Json} (h : (ofRecords data).fault = none) : Reachable (ofRecords data).store
  | after {session : Session Float Store} (hs : Reachable session.state) {d : Deed} (hd : d.AddsTexts) :
      Reachable (d.run session).state

namespace Reachable

/-- **The rows of a store can be read in every state.** -/
theorem legible {s : Store} (h : s.Reachable) : s.Legible := by
  induction h with
  | configured h =>
      rw [(configure_eq_ok_iff.1 h).2]
      exact legible_empty _
  | empty => exact legible_empty none
  | ofRecords h => exact (ofRecords_spec h).1.legible
  | after _ hd ih => exact ih.run hd

theorem keeps_load (tree : Tree) : Task.Keeps Reachable (load tree) :=
  fun _ hs => hs.after (d := .load tree) trivial

end Reachable

end CpeMatch.Store
