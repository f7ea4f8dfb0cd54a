import CpeMatch.Proofs.Lookup.Rows
import CpeMatch.Proofs.Store.Reachable

/-!
**Rows that need not be sorted again.**

The rows that a store gives for a product are in ascending order of ids.  So a lookup that trusts them to be
goes through the same vulnerabilities in the same order as one that sorts them again, and everything else
that the two do is the same: the details that they ask for, what they write to the log, and the times that
they record.

Main definitions:

* `CpeMatch.Source.Ascends` — a source whose rows are in ascending order;
* `CpeMatch.Lookup.Question` — what can be looked up.

Main results:

* `CpeMatch.Store.ascends_source`, `CpeMatch.RowList.ascends_source` — such sources;
* `CpeMatch.RowList.get?_of_detailsOf` — the details that a list of rows says;
* `CpeMatch.Lookup.follow_completedOnly` — reading an item has no effect on a lookup;
* `CpeMatch.Lookup.followAll_presorted` — sorting rows that are in ascending order has none either;
* `CpeMatch.Lookup.Question.keeps` — what lasts when a source is asked also lasts when it is used;
* `CpeMatch.Lookup.Question.agreeOn` — **lookups do the same, whether they sort the rows again or not**.
-/

set_option autoImplicit false

namespace CpeMatch

open Timing

/-! ### Sources -/

/-- What holds of the data lasts when the source is asked. -/
structure Source.Keeps {S : Type} (source : Source S) (p : S → Prop) : Prop where
  rows : ∀ vendor product, Task.Keeps p (source.rows vendor product)
  details : ∀ id, Task.Keeps p (source.details id)

/-- Of data with `p` the source gives the rows of a product in ascending order of ids, which are texts. -/
structure Source.Ascends {S : Type} (source : Source S) (p : S → Prop) : Prop extends source.Keeps p where
  ascending : ∀ vendor product, Task.Leads p (source.rows vendor product) fun stream _ =>
    ∃ items : List (Text × Entry), items.Pairwise (·.1 ≤ ·.1) ∧ stream = streamOf items

/-- A store gives the rows of a product in ascending order of ids as long as they can be read. -/
theorem Store.ascends_source {tree : Files.Tree} {p : Store → Prop} (hload : Task.Keeps p (load tree))
    (hp : ∀ s, p s → s.Legible) : (source tree).Ascends p where
  rows _ _ := keeps_ask hload _
  details _ := keeps_ask hload _
  ascending vendor product := by
    intro session hs stream session' hrun
    obtain ⟨hs', hstream⟩ := leads_ask hload _ session hs stream session' hrun
    rw [(hp _ hs').records_eq] at hstream
    exact ⟨_, Store.pairwise_items _ vendor product, (Except.ok.inj hstream).symm⟩

namespace RowList

theorem exists_detailsOf_cons {v : Vulnerability} {vs : List Vulnerability} {details : List (Json.Key × Vulnerability)}
    (h : detailsOf (v :: vs) = .ok details) :
    ∃ key others, v.id.key? = some key ∧ detailsOf vs = .ok others ∧ details = (key, v) :: others := by
  rw [detailsOf, List.mapM_cons] at h
  obtain ⟨first, hfirst, h⟩ := exists_of_bind_eq_ok h
  obtain ⟨others, hothers, h⟩ := exists_of_bind_eq_ok h
  cases hkey : v.id.key? with
  | none =>
      rw [hkey] at hfirst
      cases hfirst
  | some key =>
      rw [hkey] at hfirst
      cases hfirst
      exact ⟨key, others, rfl, hothers, (Except.ok.inj h).symm⟩

/-- Of several vulnerabilities under one id a list of rows says the last, as a store does. -/
theorem get?_of_detailsOf {vs : List Vulnerability} {details : List (Json.Key × Vulnerability)}
    (h : detailsOf vs = .ok details) (rows : List Row) {id : Json} {key : Json.Key} (hkey : id.key? = some key) :
    get? ⟨rows, details⟩ id = .ok (Store.lastUnder? vs key) := by
  rw [get?, hkey]
  refine congrArg Except.ok ?_
  induction vs generalizing details with
  | nil =>
      cases h
      rfl
  | cons v vs ih =>
      obtain ⟨k, others, hk, hothers, rfl⟩ := exists_detailsOf_cons h
      rw [List.reverse_cons, List.lookup_append, ih hothers, Store.lastUnder?_cons, hk]
      refine congrArg _ ?_
      by_cases hsame : k = key
      · simp [hsame]
      · simp [hsame, Ne.symm hsame]

/-- A list of rows is left as it is when it is asked. -/
theorem keeps_source (p : RowList → Prop) : source.Keeps p where
  rows _ _ := Task.Keeps.state.bind fun _ => Task.Keeps.pure _
  details _ := Task.Keeps.state.bind fun _ => Task.Keeps.settle _

/-- A list of rows in ascending order of ids gives them so. -/
theorem ascends_source : source.Ascends fun l =>
    ∃ items : List (Text × Entry), items.Pairwise (·.1 ≤ ·.1) ∧ l.rows.map Row.toItem = streamOf items where
  toKeeps := keeps_source _
  ascending _ _ := by
    rintro session ⟨items, hitems, hrows⟩ stream session' hrun
    cases hrun
    exact ⟨items, hitems, hrows⟩

end RowList

namespace Lookup

/-! ### Following the events -/

section

variable {S β : Type} (deliver : Json → Match → Task Float S Fault β)

/-- Reading an item has no effect. -/
theorem follow_completedOnly (g : Grouping) (t : Tally) (events : List (Event Json)) :
    follow g deliver t (Grouping.completedOnly events) = follow g deliver t events := by
  induction events generalizing t with
  | nil => rfl
  | cons e rest ih =>
      cases e with
      | read => exact ih t
      | completed id d =>
          rw [Grouping.completedOnly_completed, follow, follow]
          simp only [ih]

/-- What is done about an event does not depend on whether the stream is trusted to be ordered. -/
theorem follow_presorted (l : Lookup) (c : Cpe) (presorted : Bool) (t : Tally) (events : List (Event Json)) :
    follow (Lookup.grouping { l with presorted } c) deliver t events =
      follow (l.grouping c) deliver t events := by
  induction events generalizing t with
  | nil => rfl
  | cons e rest ih =>
      rw [follow, follow]
      simp only [ih]
      rfl

/-- Sorting a stream whose ids are in ascending order has no effect. -/
theorem followAll_presorted (l : Lookup) (c : Cpe) (presorted : Bool) {items : List (Text × Entry)}
    (h : items.Pairwise (·.1 ≤ ·.1)) :
    followAll (Lookup.grouping { l with presorted } c) deliver (streamOf items) =
      followAll (l.grouping c) deliver (streamOf items) := by
  obtain ⟨hevents, hfault⟩ := l.completedOnly_events c h
  obtain ⟨hevents', hfault'⟩ := completedOnly_events { l with presorted } c h
  have hsame : Grouping.completedOnly
        ((Lookup.grouping { l with presorted } c).events (streamOf items)).events =
      Grouping.completedOnly ((l.grouping c).events (streamOf items)).events := hevents'.trans hevents.symm
  -- the two histories differ in when the items are read, and this has no effect
  rw [followAll, ← follow_completedOnly, hsame, follow_completedOnly, follow_presorted, hfault', followAll,
    hfault]
  rfl

end

/-! ### What lasts -/

section

variable {S β : Type} {p : S → Prop} {source : Source S} {deliver : Json → Match → Task Float S Fault β}

theorem keeps_follow (hdeliver : ∀ id m, Task.Keeps p (deliver id m)) (g : Grouping) (t : Tally)
    (events : List (Event Json)) : Task.Keeps p (follow g deliver t events) := by
  induction events generalizing t with
  | nil => exact Task.Keeps.pure _
  | cons e rest ih =>
      rw [follow]
      refine (Task.Keeps.noteAll _).bind fun _ => ?_
      cases e.result? with
      | none => exact ih _
      | some x => exact (hdeliver x.1 x.2).bind fun _ => (ih _).bind fun _ => Task.Keeps.pure _

theorem keeps_followAll (hdeliver : ∀ id m, Task.Keeps p (deliver id m)) (g : Grouping)
    (stream : Stream Json) : Task.Keeps p (followAll g deliver stream) := by
  refine (keeps_follow hdeliver g _ _).bind ?_
  rintro ⟨delivered, t⟩
  cases (g.events stream).fault with
  | none => exact (Task.Keeps.note _).bind fun _ => Task.Keeps.pure _
  | some f => exact Task.Keeps.settle (.error f)

theorem keeps_onData {t : Task Float S Fault β} (ht : Task.Keeps p t) :
    Task.Keeps (fun st => p st.data) (onData t) := ht.within fun _ _ => rfl

variable (hsource : source.Keeps p)

include hsource

theorem keeps_eachMatch (hdeliver : ∀ id m, Task.Keeps p (deliver id m)) (l : Lookup) (cpe : Json) :
    Task.Keeps p (l.eachMatch source deliver cpe) := by
  refine (Task.Keeps.settle _).bind fun c => ?_
  cases c.isValid with
  | false => exact (Task.Keeps.note _).bind fun _ => Task.Keeps.pure _
  | true => exact (hsource.rows c.vendor c.product).bind fun _ => keeps_followAll hdeliver _ _

theorem keeps_enrich (cpe id : Json) (m : Match) : Task.Keeps p (enrich source cpe id m) := by
  refine (hsource.details id).bind fun v => ?_
  cases v with
  | none => exact (Task.Keeps.note _).bind fun _ => Task.Keeps.pure _
  | some v => exact Task.Keeps.pure _

theorem keeps_vulnerabilities (l : Lookup) (cpe : Json) :
    Task.Keeps (fun st => p st.data) (l.vulnerabilities source cpe) := by
  have hfound := keeps_onData (keeps_eachMatch hsource (keeps_enrich hsource cpe) l cpe)
  have hmeasured := (hfound.bind fun found => Task.Keeps.pure (found.filterMap id)).measureResult
    recordMetric (fun _ _ h => h) "get_vulnerabilities" List.length
  exact Task.Keeps.announced (hmeasured.bind fun _ => (Task.Keeps.note _).bind fun _ => Task.Keeps.pure _)
    _ _

theorem keeps_each (l : Lookup) (cpes : List Json) :
    Task.Keeps (fun st => p st.data) (l.each source cpes) := by
  induction cpes with
  | nil => exact Task.Keeps.pure _
  | cons cpe rest ih =>
      exact (keeps_vulnerabilities hsource l cpe).attempt.bind fun _ => ih.bind fun _ => Task.Keeps.pure _

end

/-! ### Lookups that agree -/

/-- What can be looked up. -/
inductive Question where
  | ids (cpe : Json)
  | vulnerabilities (cpe : Json)
  | many (cpes : List Json)

namespace Question

/-- What a question is answered with. -/
def Answer : Question → Type
  | ids _ => List (Json × Match)
  | vulnerabilities _ => List Vulnerability
  | many _ => List (Json × List Vulnerability)

/-- Looks up what is asked for. -/
def pose {S : Type} (l : Lookup) (source : Source S) :
    (q : Question) → Task Float (LookupState S) Fault q.Answer
  | ids cpe => l.matchesOf source cpe
  | vulnerabilities cpe => l.vulnerabilities source cpe
  | many cpes => l.many source cpes

end Question

section

variable {S β : Type} {p : S → Prop} {source : Source S}

/-- What lasts when a source is asked also lasts when something is looked up in it. -/
theorem Question.keeps (hsource : source.Keeps p) (l : Lookup) (q : Question) :
    Task.Keeps (fun st => p st.data) (q.pose l source) := by
  cases q with
  | ids cpe =>
      exact keeps_onData (keeps_eachMatch hsource (fun id m => Task.Keeps.pure (id, m)) l cpe)
  | vulnerabilities cpe => exact keeps_vulnerabilities hsource l cpe
  | many cpes =>
      rw [pose, Lookup.many]
      cases Json.firstOfEach cpes with
      | none => exact Task.Keeps.settle (.error Fault.noKey)
      | some cpes => exact (keeps_each hsource l cpes).bind fun _ => Task.Keeps.settle _

theorem agreeOn_onData {t t' : Task Float S Fault β} (h : Task.AgreeOn p t t') :
    Task.AgreeOn (fun st => p st.data) (onData t) (onData t') := h.within

variable (hsource : source.Ascends p) (l : Lookup) (presorted : Bool)

include hsource

theorem agreeOn_eachMatch (deliver : Json → Match → Task Float S Fault β) (cpe : Json) :
    Task.AgreeOn p (eachMatch { l with presorted } source deliver cpe) (l.eachMatch source deliver cpe) := by
  refine (Task.AgreeOn.refl p _).bind (Task.Keeps.settle _).leads fun c => ?_
  cases c.isValid with
  | false => exact Task.AgreeOn.refl _ _
  | true =>
      refine (Task.AgreeOn.refl p _).bind (hsource.ascending c.vendor c.product) ?_
      rintro _ session ⟨items, hitems, rfl⟩
      rw [followAll_presorted deliver l c presorted hitems]

theorem agreeOn_vulnerabilities (cpe : Json) :
    Task.AgreeOn (fun st => p st.data) (Lookup.vulnerabilities { l with presorted } source cpe)
      (l.vulnerabilities source cpe) := by
  have hfound := agreeOn_onData (agreeOn_eachMatch hsource l presorted (enrich source cpe) cpe)
  exact (((hfound.bind_same _).measureResult _ _ _).bind_same _).announced _ _

/-- One name after another. -/
theorem agreeOn_each (cpes : List Json) :
    Task.AgreeOn (fun st => p st.data) (Lookup.each { l with presorted } source cpes)
      (l.each source cpes) := by
  induction cpes with
  | nil => exact Task.AgreeOn.refl _ _
  | cons cpe rest ih =>
      -- the other names are looked up in what this lookup leaves, also where it fails
      refine (agreeOn_vulnerabilities hsource l presorted cpe).attempt.bind ?_ fun _ => ih.bind_same _
      exact (keeps_vulnerabilities hsource.toKeeps _ cpe).attempt.leads

/-- **Lookups do the same, whether they sort the rows again or not.** -/
theorem Question.agreeOn (q : Question) :
    Task.AgreeOn (fun st => p st.data) (q.pose { l with presorted } source) (q.pose l source) := by
  cases q with
  | ids cpe => exact agreeOn_onData (agreeOn_eachMatch hsource l presorted (fun id m => return (id, m)) cpe)
  | vulnerabilities cpe => exact agreeOn_vulnerabilities hsource l presorted cpe
  | many cpes =>
      rw [pose, Lookup.many, pose, Lookup.many]
      cases Json.firstOfEach cpes with
      | none => exact Task.AgreeOn.refl _ _
      | some cpes => exact (agreeOn_each hsource l presorted cpes).bind_same _

end

end Lookup

end CpeMatch
