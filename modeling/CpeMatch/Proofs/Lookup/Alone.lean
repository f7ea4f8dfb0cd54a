import CpeMatch.Proofs.Lookup.Complete
import CpeMatch.Proofs.Store.History

/-!
**One lookup by itself.**

A lookup only reads the data that it works on, but for the load of a store that is asked for the first
time.  So however it ends, it ends in the same way on every store that shows the same data, whatever the
clock reads and whatever has been looked up before; and of itself it leaves nothing but a record of its time.

Main definitions:

* `CpeMatch.Store.LoadedOnce` — what one load leaves of a store;
* `CpeMatch.Store.IsReady` — a store that has been loaded, or that can be;
* `CpeMatch.Store.Presents` — a store that shows given data when it is asked;
* `CpeMatch.Store.AfterAsking` — what is left of a store that may have been asked something;
* `CpeMatch.Lookup.EndsWith` — how a lookup ends, and what it leaves.

Main results:

* `CpeMatch.Store.IsReady.exists_presents` — the data that a store shows;
* `CpeMatch.Store.Presents.start_pose` — the data decide every answer;
* `CpeMatch.Lookup.exists_reads_eachMatch` — **a lookup on a loaded store only reads**;
* `CpeMatch.Lookup.exists_endsWith` — **how a lookup ends does not depend on what has been before**.
-/

set_option autoImplicit false

namespace CpeMatch

open Timing

/-! ### Stores that show the same data -/

namespace Store

/-- The store `t` has been loaded, and its data are those of `s`. -/
structure LoadedAs (s t : Store) : Prop where
  loaded : t.loaded = true
  held_eq : t.held = s.held
  index_eq : t.index = s.index

namespace LoadedAs

variable {s t : Store}

/-- What a store answers depends on its data alone. -/
theorem answer_eq (h : s.LoadedAs t) (q : Query) : q.answer t = q.answer s := by
  obtain ⟨_, hheld, hindex⟩ := h
  cases s
  cases t
  subst hheld hindex
  cases q <;> rfl

theorem records_eq (h : s.LoadedAs t) (vendor product : Text) :
    t.records vendor product = s.records vendor product := by
  rw [records, records, postings, postings, h.index_eq]

theorem get?_eq (h : s.LoadedAs t) (id : Json) : t.get? id = s.get? id := by
  rw [get?, get?, h.held_eq]

theorem legible (h : s.LoadedAs t) (hs : s.Legible) : t.Legible := hs.of_index_eq h.index_eq

end LoadedAs

/-- What a load that comes to its end leaves of `s` is `t`. -/
def LoadedOnce (tree : Files.Tree) (s t : Store) : Prop :=
  ∃ (session session₁ : Session Float Store) (n : Nat), session.state = s ∧
    (load tree).start session = (.ok n, session₁) ∧ session₁.state = t

/-- The store has been loaded, or it is for data at a place from which they can be loaded. -/
def IsReady (tree : Files.Tree) (s : Store) : Prop :=
  s.loaded = true ∨ ∃ config t, s.config = some config ∧ s.LoadedOnce tree t

/-- When it is asked, the store `t` shows the data of `s`: it has been loaded and has them, or is loaded
then and has them after that. -/
def Presents (tree : Files.Tree) (s t : Store) : Prop :=
  s.LoadedAs t ∨ (t.loaded = false ∧ ∀ session : Session Float Store, session.state = t →
    ∃ n session₁, (load tree).start session = (.ok n, session₁) ∧ s.LoadedAs session₁.state)

/-- The store `t` is left of `s`, which may have been asked something: if it has been asked for the first
time it has been loaded once, and it is as it was if not. -/
structure AfterAsking (tree : Files.Tree) (asked : Bool) (s t : Store) : Prop where
  eq_of_kept : s.loaded = true ∨ asked = false → t = s
  loadedOnce : s.loaded = false → asked = true → s.LoadedOnce tree t

section

variable {tree : Files.Tree} {s t u : Store}

/-- The data that a store shows; they can be read if its own can. -/
theorem IsReady.exists_presents (h : s.IsReady tree) :
    ∃ shown : Store, shown.Presents tree s ∧ (s.Legible → shown.Legible) := by
  rcases h with hloaded | ⟨config, t, hconfig, session, session₁, n, rfl, hload, _⟩
  · exact ⟨s, Or.inl ⟨hloaded, rfl, rfl⟩, fun h => h⟩
  · let taken := absorbPath tree session.state config
    have hnone : taken.fault = none := fault_absorbPath_of_load hconfig hload
    cases hloaded : session.state.loaded with
    | true => exact ⟨session.state, Or.inl ⟨hloaded, rfl, rfl⟩, fun h => h⟩
    | false =>
        refine ⟨taken.store, Or.inr ⟨hloaded, ?_⟩, fun h => keptByAdding_legible.absorbPath h config⟩
        -- what is taken in depends on the store alone, not on the clock or the log of the session
        intro other hother
        rw [← hother] at hconfig
        have htaken : taken = absorbPath tree other.state config := by rw [hother]
        obtain ⟨metric, _, ⟨f, hfault, _⟩ | ⟨_, hresult, hstate⟩⟩ := load_cases hconfig tree
        · rw [← htaken, hnone] at hfault
          cases hfault
        · rw [← htaken] at hresult hstate
          exact ⟨_, _, Prod.ext hresult rfl, by rw [hstate], by rw [hstate]; rfl, by rw [hstate]; rfl⟩

/-- The data that a store shows decide every answer, whether it has been loaded or not. -/
theorem Presents.start_pose (h : s.Presents tree t) (q : Query) {session : Session Float Store}
    (hsession : session.state = t) : ((q.pose tree).start session).1 = q.answer s := by
  subst hsession
  rw [q.pose_eq_ask]
  rcases h with h | ⟨hloaded, hloads⟩
  · rw [start_ask tree q.answer h.loaded, h.answer_eq]
  · obtain ⟨n, session₁, hload, h⟩ := hloads session rfl
    rw [start_ask_of_load q.answer hloaded hload, h.answer_eq]

theorem Presents.loadedAs (h : s.Presents tree t) (hloaded : t.loaded = false)
    (honce : t.LoadedOnce tree u) : s.LoadedAs u := by
  obtain ⟨session, session₁, n, hsession, hload, rfl⟩ := honce
  rcases h with h | ⟨_, hloads⟩
  · rw [h.loaded] at hloaded
    cases hloaded
  · obtain ⟨_, _, hload', h⟩ := hloads session hsession
    rw [hload] at hload'
    rwa [(Prod.mk.inj hload').2]

/-- A store that may have been asked something shows the same data after it. -/
theorem Presents.afterAsking (h : s.Presents tree t) {asked : Bool} (hu : t.AfterAsking tree asked u) :
    s.Presents tree u := by
  by_cases hkept : t.loaded = true ∨ asked = false
  · rwa [hu.eq_of_kept hkept]
  · simp only [not_or, Bool.not_eq_true, Bool.not_eq_false] at hkept
    exact Or.inl (h.loadedAs hkept.1 (hu.loadedOnce hkept.1 hkept.2))

theorem AfterAsking.refl (tree : Files.Tree) (s : Store) : s.AfterAsking tree false s where
  eq_of_kept _ := rfl
  loadedOnce _ h := by cases h

/-- A store that has been asked for the first time is not loaded again. -/
theorem AfterAsking.trans {shown s' : Store} (hs : shown.Presents tree s) {asked again : Bool}
    (h : s.AfterAsking tree asked t) (h' : t.AfterAsking tree again s') :
    s.AfterAsking tree (asked || again) s' where
  eq_of_kept hkept := by
    rw [Bool.or_eq_false_iff, or_and_left] at hkept
    obtain rfl := h.eq_of_kept hkept.1
    exact h'.eq_of_kept hkept.2
  loadedOnce hloaded hasked := by
    cases asked with
    | false =>
        obtain rfl := h.eq_of_kept (Or.inr rfl)
        exact h'.loadedOnce hloaded hasked
    | true =>
        have honce := h.loadedOnce hloaded rfl
        rwa [h'.eq_of_kept (Or.inl (hs.loadedAs hloaded honce).loaded)]

/-- A question about the data only reads them. -/
theorem reads_ask {α : Type} {question : Store → Except Fault α}
    (hquestion : ∀ t, s.LoadedAs t → question t = question s) :
    Task.Reads s.LoadedAs (ask tree question) (question s) := by
  intro session h
  rw [start_ask tree question h.loaded, hquestion _ h]
  exact ⟨rfl, rfl⟩

end

end Store

namespace Lookup

/-! ### Reading -/

section

variable {S β : Type} {p : S → Prop} {g : Grouping} {deliver : Json → Match → Task Float S Fault β}
  (hdeliver : ∀ id m, ∃ r, Task.Reads p (deliver id m) r)

include hdeliver in
theorem exists_reads_follow (events : List (Event Json)) (t : Tally) :
    ∃ r, Task.Reads p (follow g deliver t events) r := by
  induction events generalizing t with
  | nil => exact ⟨_, Task.Reads.pure _⟩
  | cons e rest ih =>
      rw [follow]
      refine Task.Reads.exists_noteAll _ ?_
      cases e.result? with
      | none => exact ih _
      | some x =>
          refine Task.Reads.exists_bind (hdeliver x.1 x.2) fun b => ?_
          exact Task.Reads.exists_bind (ih _) fun others => ⟨_, Task.Reads.pure _⟩

include hdeliver in
theorem exists_reads_followAll (stream : Stream Json) :
    ∃ r, Task.Reads p (followAll g deliver stream) r := by
  rw [followAll]
  refine Task.Reads.exists_bind (exists_reads_follow hdeliver _ _) ?_
  rintro ⟨delivered, t⟩
  cases (g.events stream).fault with
  | some f => exact ⟨_, Task.Reads.settle (.error f)⟩
  | none => exact ⟨_, Task.Reads.note _ (Task.Reads.pure _)⟩

end

section

variable (l : Lookup) (tree : Files.Tree) {s : Store}

/-- **A lookup on a loaded store only reads**, if what is done with the results does. -/
theorem exists_reads_eachMatch {β : Type} {deliver : Json → Match → Task Float Store Fault β}
    (hdeliver : ∀ id m, ∃ r, Task.Reads s.LoadedAs (deliver id m) r) (cpe : Json) :
    ∃ r, Task.Reads s.LoadedAs (l.eachMatch (Store.source tree) deliver cpe) r := by
  rw [eachMatch]
  refine Task.Reads.exists_bind ⟨_, Task.Reads.settle _⟩ ?_
  intro c
  split
  · refine Task.Reads.exists_bind ⟨_, Store.reads_ask ?_⟩ fun stream => exists_reads_followAll hdeliver stream
    intro t h
    rw [h.records_eq]
  · exact ⟨_, Task.Reads.note _ (Task.Reads.pure _)⟩

theorem exists_reads_enrich (cpe id : Json) (m : Match) :
    ∃ r, Task.Reads s.LoadedAs (enrich (Store.source tree) cpe id m) r := by
  rw [enrich]
  refine Task.Reads.exists_bind ⟨_, Store.reads_ask fun t h => h.get?_eq id⟩ ?_
  intro v
  cases v with
  | some v => exact ⟨_, Task.Reads.pure _⟩
  | none => exact ⟨_, Task.Reads.note _ (Task.Reads.pure _)⟩

/-- The first thing that a lookup of any other name does is to have the store loaded. -/
theorem start_eachMatch_of_load {β : Type} (deliver : Json → Match → Task Float Store Fault β) {name : Text}
    (hvalid : (Cpe.parse name).isValid = true) {session session₁ : Session Float Store} {n : Nat}
    (hloaded : session.state.loaded = false)
    (hload : (Store.load tree).start session = (.ok n, session₁)) (hloaded₁ : session₁.state.loaded = true) :
    (l.eachMatch (Store.source tree) deliver (.string name)).start session =
      (l.eachMatch (Store.source tree) deliver (.string name)).start session₁ := by
  have hname := Cpe.ofJson_string name
  rw [eachMatch, Task.start_bind (Task.start_settle hname session),
    Task.start_bind (Task.start_settle hname session₁), if_pos hvalid]
  refine Task.start_bind_congr ?_ _
  let rows (s : Store) : Except Fault (Stream Json) :=
    (s.records (Cpe.parse name).vendor (Cpe.parse name).product).map fun rows => rows.map (·.toItem)
  exact (Store.start_ask_of_load rows hloaded hload).trans (Store.start_ask tree rows hloaded₁).symm

end

/-! ### How a lookup ends -/

section

variable (l : Lookup) {tree : Files.Tree} {s : Store}

/-- A lookup ends untimed in one way on every store that shows the data of `s`, and the store has been asked
something if the name says vendor and product. -/
theorem exists_end_eachMatch (s : Store) (tree : Files.Tree) (name : Text) :
    ∃ r, ∀ session : Session Float Store, s.Presents tree session.state →
      let ended := (l.eachMatch (Store.source tree) (enrich (Store.source tree) (.string name))
        (.string name)).start session
      ended.1 = r ∧ session.state.AfterAsking tree (Cpe.parse name).isValid ended.2.state := by
  cases hvalid : (Cpe.parse name).isValid with
  | false =>
      refine ⟨.ok [], ?_⟩
      intro session _
      obtain ⟨hresult, hstate⟩ := l.reads_eachMatch_of_invalid (Store.source tree)
        (enrich (Store.source tree) (.string name)) (fun _ => True) hvalid session trivial
      refine ⟨hresult, ?_⟩
      rw [hstate]
      exact .refl tree session.state
  | true =>
      -- after the load, if there has to be one, nothing but reading is left
      obtain ⟨r, hreads⟩ := l.exists_reads_eachMatch tree (s := s)
        (exists_reads_enrich tree (.string name)) (.string name)
      refine ⟨r, ?_⟩
      intro session h
      rcases h with h | ⟨hloaded, hloads⟩
      · obtain ⟨hresult, hstate⟩ := hreads session h
        refine ⟨hresult, fun _ => hstate, ?_⟩
        intro hunloaded _
        rw [h.loaded] at hunloaded
        cases hunloaded
      · obtain ⟨n, session₁, hload, h⟩ := hloads session rfl
        obtain ⟨hresult, hstate⟩ := hreads session₁ h
        rw [l.start_eachMatch_of_load tree _ hvalid hloaded hload h.loaded]
        refine ⟨hresult, ?_, fun _ _ => ⟨session, session₁, n, rfl, hload, hstate.symm⟩⟩
        rintro (hloaded' | hno)
        · rw [hloaded] at hloaded'
          cases hloaded'
        · cases hno

/-- On every store that shows the data of `s` a lookup of the name ends with `r`.  It leaves one record of its
time, and the store has been asked something if the name says vendor and product. -/
def EndsWith (l : Lookup) (tree : Files.Tree) (s : Store) (name : Text)
    (r : Except Fault (List Vulnerability)) : Prop :=
  ∀ session : Session Float (LookupState Store), s.Presents tree session.state.data →
    ∃ session' time,
      (l.vulnerabilities (Store.source tree) (.string name)).start session = (r, session') ∧
      session'.state.monitor = session.state.monitor.record
        ⟨"get_vulnerabilities", time, Task.itemsOf List.length r⟩ ∧
      session.state.data.AfterAsking tree (Cpe.parse name).isValid session'.state.data

/-- **How a lookup ends does not depend on what has been before**, but for the data that the store shows. -/
theorem exists_endsWith (s : Store) (tree : Files.Tree) (name : Text) :
    ∃ r, l.EndsWith tree s name r := by
  obtain ⟨r, hends⟩ := l.exists_end_eachMatch s tree name
  refine ⟨r.map (·.filterMap id), ?_⟩
  intro session h
  obtain ⟨session', time, hrun, hstate⟩ :=
    l.start_vulnerabilities (Store.source tree) (.string name) session
  obtain ⟨hresult, hafter⟩ := hends
    ⟨session.clock.take.2.take.2, session.announcing, session.log, session.state.data⟩ h
  rw [hresult] at hrun hstate
  refine ⟨session', time, hrun, by rw [hstate]; rfl, ?_⟩
  rw [hstate]
  exact hafter

end

end Lookup

end CpeMatch
