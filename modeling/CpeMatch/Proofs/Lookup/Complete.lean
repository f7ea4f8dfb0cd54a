import CpeMatch.Proofs.Lookup.Rows
import CpeMatch.Proofs.Store.Loading

/-!
**A lookup finds what the vulnerabilities themselves say.**

Looking a name up in a store takes the way over the index, the sorting of its rows, the grouping and the
details of each vulnerability.  What comes out is what one finds by matching, for each vulnerability held,
the entries that it lists for the product.

Main definitions:

* `CpeMatch.Lookup.foundOn` — the vulnerabilities that match, each with its match;
* `CpeMatch.Lookup.foundIn` — what a lookup finds in a store, whatever the name.

Main results:

* `CpeMatch.Lookup.gives_eachMatch` — a lookup hands over the results one by one, and ends well;
* `CpeMatch.Lookup.start_vulnerabilities` — a lookup and the record of its time;
* `CpeMatch.Lookup.exists_start_of_legible` — what is found in a store whose rows can be read;
* `CpeMatch.Lookup.vulnerabilities_eq_naive` — **looking up is matching every vulnerability**;
* `CpeMatch.Lookup.foundBy_mem_vulnerabilities` — **no software escapes the vulnerability that lists it**.
-/

set_option autoImplicit false

namespace CpeMatch

open Timing

/-! ### A store that has been loaded -/

namespace Store

variable {s : Store}

/-- A loaded store answers without being loaded again. -/
theorem gives_ask (hloaded : s.loaded = true) (tree : Files.Tree) {α : Type}
    {question : Store → Except Fault α} {a : α} (ha : question s = .ok a) :
    Task.Gives (· = s) (ask tree question) fun b s' => s' = s ∧ b = a := by
  rintro session rfl
  exact ⟨a, session, by rw [start_ask tree question hloaded, ha], rfl, rfl⟩

theorem gives_rows (hs : s.Legible) (hloaded : s.loaded = true) (tree : Files.Tree)
    (vendor product : Text) :
    Task.Gives (· = s) ((source tree).rows vendor product) fun stream s' =>
      s' = s ∧ stream = streamOf (s.items vendor product) :=
  gives_ask hloaded tree (hs.records_eq vendor product)

theorem gives_details (hloaded : s.loaded = true) (tree : Files.Tree) (id : Text) :
    Task.Gives (· = s) ((source tree).details (.string id)) fun v s' =>
      s' = s ∧ v = s.held[Json.Key.text id]? :=
  gives_ask hloaded tree rfl

end Store

namespace Lookup

/-! ### Handing results over -/

section

variable {S β : Type} {p : S → Prop} {g : Grouping} (deliver : Json → Match → Task Float S Fault β)
  (f : Json → Match → β)

/-- The results that events deliver are handed over one by one. -/
theorem gives_follow {events : List (Event Json)}
    (hdeliver : ∀ x ∈ events.filterMap Event.result?,
      Task.Gives p (deliver x.1 x.2) fun b s => p s ∧ b = f x.1 x.2) (t : Tally) :
    Task.Gives p (follow g deliver t events) fun r s =>
      p s ∧ r.1 = (events.filterMap Event.result?).map fun x => f x.1 x.2 := by
  induction events generalizing t with
  | nil => exact Task.Gives.pure fun s hs => ⟨hs, rfl⟩
  | cons e rest ih =>
      rw [follow]
      refine Task.Gives.noteAll _ ?_
      cases he : e.result? with
      | none =>
          rw [List.filterMap_cons_none he] at hdeliver ⊢
          exact ih hdeliver _
      | some x =>
          rw [List.filterMap_cons_some he] at hdeliver ⊢
          obtain ⟨id, m⟩ := x
          refine (hdeliver (id, m) (List.mem_cons_self ..)).bind ?_
          intro b
          refine Task.Gives.of_and ?_
          rintro rfl
          -- what is delivered later is delivered from where this has left the state
          refine (ih (fun y hy => hdeliver y (List.mem_cons_of_mem _ hy)) _).bind ?_
          rintro ⟨others, t'⟩
          exact Task.Gives.pure fun s hs => ⟨hs.1, congrArg (f id m :: ·) hs.2⟩

theorem gives_followAll {stream : Stream Json} (hfault : (g.events stream).fault = none)
    (hdeliver : ∀ x ∈ (g.events stream).events.filterMap Event.result?,
      Task.Gives p (deliver x.1 x.2) fun b s => p s ∧ b = f x.1 x.2) :
    Task.Gives p (followAll g deliver stream) fun bs s =>
      p s ∧ bs = ((g.events stream).events.filterMap Event.result?).map fun x => f x.1 x.2 := by
  rw [followAll]
  refine (gives_follow deliver f hdeliver _).bind ?_
  rintro ⟨delivered, t⟩
  simp only [hfault]
  exact Task.Gives.note _ (Task.Gives.pure fun s hs => hs)

end

section

variable {β : Type} {s : Store} (deliver : Json → Match → Task Float Store Fault β) (f : Json → Match → β)

/-- A lookup of a name that says vendor and product hands its results over one by one, and ends well. -/
theorem gives_eachMatch (l : Lookup) (hs : s.Legible) (hloaded : s.loaded = true) (tree : Files.Tree)
    {name : Text} (hvalid : (Cpe.parse name).isValid = true)
    (hdeliver : ∀ x ∈ l.resultsOn s (Cpe.parse name),
      Task.Gives (· = s) (deliver (.string x.1) x.2) fun b s' => s' = s ∧ b = f (.string x.1) x.2) :
    Task.Gives (· = s) (l.eachMatch (Store.source tree) deliver (.string name)) fun bs s' =>
      s' = s ∧ bs = (l.resultsOn s (Cpe.parse name)).map fun x => f (.string x.1) x.2 := by
  have hresults := l.filterMap_result?_events s (Cpe.parse name)
  have hfault := (l.completedOnly_events (Cpe.parse name)
    (s.pairwise_items (Cpe.parse name).vendor (Cpe.parse name).product)).2
  rw [eachMatch]
  refine (Task.Gives.settle (q := fun c s' => s' = s ∧ c = Cpe.parse name) (Cpe.ofJson_string name)
    fun _ h => ⟨h, rfl⟩).bind ?_
  intro c
  refine Task.Gives.of_and ?_
  rintro rfl
  rw [if_pos hvalid]
  refine (Store.gives_rows hs hloaded tree _ _).bind ?_
  intro stream
  refine Task.Gives.of_and ?_
  rintro rfl
  have hall := gives_followAll (p := fun s' => s' = s) (g := l.grouping (Cpe.parse name)) deliver f
    hfault ?_
  · refine hall.imp ?_
    rintro bs s' ⟨hs', hbs⟩
    refine ⟨hs', ?_⟩
    rw [hbs, hresults, List.map_map]
    rfl
  · rw [hresults]
    intro x hx
    obtain ⟨y, hy, rfl⟩ := List.mem_map.1 hx
    exact hdeliver y hy

end

/-! ### The vulnerabilities that are found -/

/-- The vulnerabilities that match a name in a store, each with its match. -/
def foundOn (l : Lookup) (s : Store) (c : Cpe) : List Vulnerability :=
  (l.resultsOn s c).filterMap fun x => (s.held[Json.Key.text x.1]?).map (·.foundBy x.2)

/-- What a lookup of a name finds in a store: nothing if the name does not say vendor and product. -/
def foundIn (l : Lookup) (s : Store) (name : Text) : List Vulnerability :=
  if (Cpe.parse name).isValid then l.foundOn s (Cpe.parse name) else []

section

variable (l : Lookup) {s : Store}

/-- What is found is what the vulnerabilities held say themselves. -/
theorem mem_foundOn_iff (hs : s.Coherent) (name : Text) (w : Vulnerability) :
    let c := Cpe.parse name
    w ∈ l.foundOn s c ↔ ∃ (key : Json.Key) (v : Vulnerability) (m : Match), s.held[key]? = some v ∧
      l.engine.match? c.version (v.entriesFor c.key) (.string c.vendor) (.string c.product) = some m ∧
      w = v.foundBy m := by
  intro c
  rw [foundOn, List.mem_filterMap]
  constructor
  · rintro ⟨⟨id, m⟩, hx, hw⟩
    obtain ⟨v, hheld, hm⟩ := (l.mem_resultsOn_iff hs name id m).1 hx
    rw [hheld] at hw
    exact ⟨.text id, v, m, hheld, hm, (Option.some.inj hw).symm⟩
  · rintro ⟨key, v, m, hheld, hm, rfl⟩
    obtain ⟨id, rfl, _⟩ := hs.named key v hheld
    refine ⟨(id, m), (l.mem_resultsOn_iff hs name id m).2 ⟨v, hheld, hm⟩, ?_⟩
    rw [hheld]
    rfl

/-- The vulnerabilities that are found are in ascending order of ids, each id once. -/
theorem pairwise_foundOn (hs : s.Coherent) (c : Cpe) :
    (l.foundOn s c).Pairwise fun v w => IdOrder.precedes? v.id w.id = some true := by
  refine List.Pairwise.filterMap _ ?_ (l.pairwise_resultsOn s c)
  intro x y hlt v hv w hw
  obtain ⟨v', hv', rfl⟩ := Option.map_eq_some_iff.1 hv
  obtain ⟨w', hw', rfl⟩ := Option.map_eq_some_iff.1 hw
  -- a match leaves the id of a vulnerability as it is
  change IdOrder.precedes? v'.id w'.id = some true
  rw [hs.id_eq_of_held hv', hs.id_eq_of_held hw', Json.precedes?_string, decide_eq_true hlt]

/-- Each id that matches has its details, so none is dropped. -/
theorem map_foundOn (hs : s.Coherent) (name : Text) :
    (l.foundOn s (Cpe.parse name)).map (fun w => (w.id, w.found)) =
      (l.resultsOn s (Cpe.parse name)).map fun x => (Json.string x.1, some x.2) := by
  rw [foundOn, List.map_filterMap, ← List.filterMap_eq_map]
  refine List.filterMap_congr ?_
  intro x hx
  obtain ⟨v, hheld, _⟩ := (l.mem_resultsOn_iff hs name x.1 x.2).1 hx
  rw [hheld, Option.map_some, Option.map_some, Function.comp_apply, ← hs.id_eq_of_held hheld]
  rfl

end

/-! ### The record of a lookup -/

/-- **A lookup and the record of its time.**  A lookup ends as it does untimed, with the results that have
details, and leaves of the data what it does untimed. -/
theorem start_vulnerabilities {S : Type} (l : Lookup) (source : Source S) (cpe : Json)
    (session : Session Float (LookupState S)) :
    let entered : Session Float S :=
      ⟨session.clock.take.2.take.2, session.announcing, session.log, session.state.data⟩
    let ended := (l.eachMatch source (enrich source cpe) cpe).start entered
    let found : Except Fault (List Vulnerability) := ended.1.map (·.filterMap id)
    ∃ session' time, (l.vulnerabilities source cpe).start session = (found, session') ∧
      session'.state = recordMetric ⟨"get_vulnerabilities", time, Task.itemsOf List.length found⟩
        { session.state with data := ended.2.state } := by
  intro entered ended found
  let within : Session Float (LookupState S) :=
    { session with clock := session.clock.take.2.take.2 }
  let left : Session Float (LookupState S) :=
    { ended.2 with state := { session.state with data := ended.2.state } }
  have hblock : (do
      let found ← onData (l.eachMatch source (enrich source cpe) cpe)
      return found.filterMap id : Task Float (LookupState S) Fault (List Vulnerability)).start within =
        (found, left) :=
    Task.start_map _ (onData (l.eachMatch source (enrich source cpe) cpe)) within
  have hmeasure := Task.start_measureResult (s := { session with clock := session.clock.take.2 })
    hblock recordMetric "get_vulnerabilities" List.length
  cases hfound : found with
  | error f =>
      rw [hfound] at hmeasure
      exact ⟨_, _, Task.start_announced_error (Task.start_bind_error hmeasure) Store.seconds
        "get_vulnerabilities", rfl⟩
  | ok vs =>
      rw [hfound] at hmeasure
      have hcall := Task.start_bind hmeasure (f := fun found => do
        Task.note (Log.Channel.lookup.record .debug
          (cpe.plain ++ ": " ++ toString found.length ++ " vulnerabilities"))
        return found)
      rw [Task.start_bind (Task.start_note _ _)] at hcall
      exact ⟨_, _, Task.start_announced hcall Store.seconds "get_vulnerabilities", rfl⟩

/-- A name that does not say vendor and product is not looked up. -/
theorem reads_eachMatch_of_invalid {S β : Type} (l : Lookup) (source : Source S)
    (deliver : Json → Match → Task Float S Fault β) (p : S → Prop) {name : Text}
    (hinvalid : (Cpe.parse name).isValid = false) :
    Task.Reads p (l.eachMatch source deliver (.string name)) (.ok []) := by
  intro session _
  rw [eachMatch, Task.start_bind (Task.start_settle (Cpe.ofJson_string name) session), hinvalid,
    if_neg Bool.false_ne_true]
  exact ⟨rfl, rfl⟩

/-! ### Lookups in a store that has been loaded -/

section

variable (l : Lookup) {s : Store} (hloaded : s.loaded = true) (tree : Files.Tree)

include hloaded in
theorem gives_enrich (cpe : Json) (id : Text) (m : Match) :
    Task.Gives (· = s) (enrich (Store.source tree) cpe (.string id) m) fun v s' =>
      s' = s ∧ v = (s.held[Json.Key.text id]?).map (·.foundBy m) := by
  rw [enrich]
  refine (Store.gives_details hloaded tree id).bind ?_
  intro v
  refine Task.Gives.of_and ?_
  rintro rfl
  cases s.held[Json.Key.text id]? with
  | none => exact Task.Gives.note _ (Task.Gives.pure fun _ h => ⟨h, rfl⟩)
  | some v => exact Task.Gives.pure fun _ h => ⟨h, rfl⟩

include hloaded in
/-- What is handed over during a lookup of any name is what there is to be found. -/
theorem gives_enriched (hs : s.Legible) (name : Text) :
    Task.Gives (· = s)
      (l.eachMatch (Store.source tree) (enrich (Store.source tree) (.string name)) (.string name))
      fun found s' => s' = s ∧ found.filterMap id = l.foundIn s name := by
  cases hvalid : (Cpe.parse name).isValid with
  | true =>
      refine (gives_eachMatch (enrich (Store.source tree) (.string name))
        (fun id m => (id.key?.bind fun key => s.held[key]?).map (·.foundBy m)) l hs hloaded tree hvalid
        fun x _ => gives_enrich hloaded tree (.string name) x.1 x.2).imp ?_
      rintro found s' ⟨hs', rfl⟩
      refine ⟨hs', ?_⟩
      rw [foundIn, if_pos hvalid, foundOn, List.filterMap_map]
      refine List.filterMap_congr ?_
      intro x _
      rw [Function.comp_apply, Json.key?_string, Option.bind_some, id_eq]
  | false =>
      intro session hsession
      obtain ⟨hresult, hstate⟩ := l.reads_eachMatch_of_invalid (Store.source tree)
        (enrich (Store.source tree) (.string name)) (· = s) hvalid session hsession
      refine ⟨[], _, Prod.ext hresult rfl, hstate.trans hsession, ?_⟩
      rw [foundIn, hvalid, if_neg Bool.false_ne_true]
      rfl

include hloaded in
/-- A lookup of any name ends with what there is to be found, if the rows can be read.  It leaves the data as
they are, and its time is recorded. -/
theorem exists_start_of_legible (hs : s.Legible) (name : Text) (session : Session Float (LookupState Store))
    (hsession : session.state.data = s) :
    ∃ session' time, (l.vulnerabilities (Store.source tree) (.string name)).start session =
        (.ok (l.foundIn s name), session') ∧
      session'.state = recordMetric ⟨"get_vulnerabilities", time, .whole (l.foundIn s name).length⟩
        session.state := by
  subst hsession
  obtain ⟨session', time, hrun, hstate⟩ :=
    l.start_vulnerabilities (Store.source tree) (.string name) session
  obtain ⟨found, inner, hended, hinner, hfound⟩ := l.gives_enriched hloaded tree hs name
    ⟨session.clock.take.2.take.2, session.announcing, session.log, session.state.data⟩ rfl
  rw [hended] at hrun hstate
  refine ⟨session', time, ?_, ?_⟩
  · rw [hrun, ← hfound]
    rfl
  · rw [hstate, hinner, ← hfound]
    rfl

end

section

variable (l : Lookup) {s : Store} (hs : s.Coherent) (hloaded : s.loaded = true) (tree : Files.Tree)

include hs hloaded in
/-- The same in a store whose index says what is held. -/
theorem exists_start_vulnerabilities (name : Text) (session : Session Float (LookupState Store))
    (hsession : session.state.data = s) :
    ∃ session' time, (l.vulnerabilities (Store.source tree) (.string name)).start session =
        (.ok (l.foundIn s name), session') ∧
      session'.state = recordMetric ⟨"get_vulnerabilities", time, .whole (l.foundIn s name).length⟩
        session.state :=
  l.exists_start_of_legible hloaded tree hs.legible name session hsession

include hs hloaded in
/-- A lookup ends with the vulnerabilities that match, and leaves the data as they are. -/
theorem gives_vulnerabilities {name : Text} (hvalid : (Cpe.parse name).isValid = true) :
    Task.Gives (fun st => st.data = s) (l.vulnerabilities (Store.source tree) (.string name))
      fun found st => st.data = s ∧ found = l.foundOn s (Cpe.parse name) := by
  intro session hsession
  obtain ⟨session', time, hrun, hstate⟩ := l.exists_start_vulnerabilities hs hloaded tree name session hsession
  refine ⟨_, session', hrun, ?_, ?_⟩
  · rw [hstate, ← hsession]
    rfl
  · rw [foundIn, if_pos hvalid]

/-- A task on the data of lookups gives what it gives on the data alone. -/
theorem gives_onData {S α : Type} {p : S → Prop} {q : α → S → Prop} {t : Task Float S Fault α}
    (ht : Task.Gives p t q) :
    Task.Gives (fun st : LookupState S => p st.data) (onData t) fun a st => q a st.data := by
  refine (Task.Gives.within ht).imp ?_
  rintro a _ ⟨x, st, hx, rfl⟩
  exact hx

include hs hloaded in
/-- The ids that match, with their matches. -/
theorem gives_matchesOf {name : Text} (hvalid : (Cpe.parse name).isValid = true) :
    Task.Gives (fun st => st.data = s) (l.matchesOf (Store.source tree) (.string name)) fun pairs st =>
      st.data = s ∧ pairs = (l.resultsOn s (Cpe.parse name)).map fun x => (Json.string x.1, x.2) := by
  have heach := gives_eachMatch (fun id m => return (id, m)) (fun id m => (id, m)) l hs.legible hloaded tree
    hvalid fun x _ => Task.Gives.pure fun _ h => ⟨h, rfl⟩
  exact gives_onData heach

end

/-! ### A store of given data -/

/-- **Looking up is matching every vulnerability.**  A store of given data holds the last vulnerability
given under each id.  Whether the rows are sorted again or not, a lookup of a name that says vendor and
product finds, in ascending order of ids and each id once, those of them whose entries for the product
match the version, each with its match; and no id that matches is without its details. -/
theorem vulnerabilities_eq_naive (l : Lookup) {data : List Json}
    (hdata : (Store.ofRecords data).fault = none) (tree : Files.Tree)
    (session : Session Float (LookupState Store))
    (hsession : session.state.data = (Store.ofRecords data).store) {name : Text}
    (hvalid : (Cpe.parse name).isValid = true) :
    let c := Cpe.parse name
    (∀ key, (Store.ofRecords data).store.held[key]? = Store.lastUnder? (Store.given data) key) ∧
    ∃ found session',
      (l.vulnerabilities (Store.source tree) (.string name)).start session = (.ok found, session') ∧
      (found.Pairwise fun v w => IdOrder.precedes? v.id w.id = some true) ∧
      (∀ w, w ∈ found ↔ ∃ (key : Json.Key) (v : Vulnerability) (m : Match),
        Store.lastUnder? (Store.given data) key = some v ∧
        l.engine.match? c.version (v.entriesFor c.key) (.string c.vendor) (.string c.product) = some m ∧
        w = v.foundBy m) ∧
      ∃ pairs session'',
        (l.matchesOf (Store.source tree) (.string name)).start session = (.ok pairs, session'') ∧
        found.map (fun w => (w.id, w.found)) = pairs.map fun x => (x.1, some x.2) := by
  intro c
  obtain ⟨hs, hheld, hloaded⟩ := Store.ofRecords_spec hdata
  obtain ⟨found, session', hrun, _, rfl⟩ := l.gives_vulnerabilities hs hloaded tree hvalid session hsession
  obtain ⟨pairs, session'', hrun', _, rfl⟩ := l.gives_matchesOf hs hloaded tree hvalid session hsession
  refine ⟨hheld, _, session', hrun, l.pairwise_foundOn hs c, ?_, _, session'', hrun', ?_⟩
  · intro w
    simp only [← hheld]
    exact l.mem_foundOn_iff hs name w
  · rw [l.map_foundOn hs name, List.map_map]
    rfl

/-- Data that give `B` twice, at first with the single version 1.0, and `A` in between. -/
def givenTwice : List Json :=
  [.object [("id", .string "B"), ("vulnerable_software", .array [.string "cpe:/a:v:p:1.0"])],
   .object [("id", .string "A"), ("vulnerable_software", .array [.string "cpe:/a:v:p:2.0"])],
   .object [("id", .string "B"), ("vulnerable_software", .array
     [.object [("cpe", .string "cpe:/a:v:p:3.0"), ("previous_version", .string "1")],
      .string "cpe:/a:v:p:1.5"])]]

/-- A session on the store of these data. -/
def givenTwiceSession : Session Float (LookupState Store) :=
  ⟨.ofList [], false, #[], ⟨(Store.ofRecords givenTwice).store, .fresh true⟩⟩

/-- Version 2.0 is found in `A` as such, and in what `B` lists at last as within the range up to 3.0. -/
theorem vulnerabilities_eq_naive_givenTwice :
    (Store.ofRecords givenTwice).fault = none ∧ (Cpe.parse "cpe:/a:v:p:2.0").isValid = true ∧
      ∃ found session',
        (vulnerabilities ⟨.standard, false⟩ (Store.source default) (.string "cpe:/a:v:p:2.0")).start
          givenTwiceSession = (.ok found, session') ∧
        (∃ w ∈ found, w.id = .string "A" ∧ w.found.map (·.cpe) = some (.string "cpe:/a:v:p:2.0")) ∧
        ∃ w ∈ found, w.id = .string "B" ∧ w.found.map (·.cpe) = some (.string "cpe:/a:v:p:3.0") := by
  have hdata : (Store.ofRecords givenTwice).fault = none := rfl
  have hvalid : (Cpe.parse "cpe:/a:v:p:2.0").isValid = true := rfl
  have hsession : givenTwiceSession.state.data = (Store.ofRecords givenTwice).store := by
    rw [givenTwiceSession]
  obtain ⟨_, found, session', hrun, _, hfound, _⟩ :=
    vulnerabilities_eq_naive ⟨.standard, false⟩ hdata default givenTwiceSession hsession hvalid
  have hone : ∀ id cpe : Text, (∃ v, Store.lastUnder? (Store.given givenTwice) (.text id) = some v ∧
      v.id = .string id ∧
      (Engine.standard.match? (Cpe.parse "cpe:/a:v:p:2.0").version
        (v.entriesFor (Cpe.parse "cpe:/a:v:p:2.0").key) (.string (Cpe.parse "cpe:/a:v:p:2.0").vendor)
        (.string (Cpe.parse "cpe:/a:v:p:2.0").product)).map (·.cpe) = some (.string cpe)) →
      ∃ w ∈ found, w.id = .string id ∧ w.found.map (·.cpe) = some (.string cpe) := by
    rintro id cpe ⟨v, hv, hid, hmatch⟩
    obtain ⟨m, hm, hcpe⟩ := Option.map_eq_some_iff.1 hmatch
    exact ⟨v.foundBy m, (hfound _).2 ⟨.text id, v, m, hv, hm, rfl⟩, hid, congrArg some hcpe⟩
  refine ⟨hdata, hvalid, found, session', hrun, ?_, ?_⟩
  · exact hone "A" "cpe:/a:v:p:2.0" ⟨_, rfl, rfl, rfl⟩
  · exact hone "B" "cpe:/a:v:p:3.0" ⟨_, rfl, rfl, rfl⟩

/-- **No software escapes the vulnerability that lists it.**  If a vulnerability held lists a row whose CPE
name says vendor and product, a lookup of this name finds the vulnerability, whatever else it lists and
whatever others are held. -/
theorem foundBy_mem_vulnerabilities (l : Lookup) {data : List Json}
    (hdata : (Store.ofRecords data).fault = none) (tree : Files.Tree)
    (session : Session Float (LookupState Store))
    (hsession : session.state.data = (Store.ofRecords data).store) {key : Json.Key} {v : Vulnerability}
    (hv : (Store.ofRecords data).store.held[key]? = some v) {r : SoftwareRecord} (hr : r ∈ v.software)
    {c : Cpe} (hc : Cpe.ofJson r.cpe = .ok c) (hvalid : c.isValid = true) :
    ∃ found session', (l.vulnerabilities (Store.source tree) r.cpe).start session = (.ok found, session') ∧
      ∃ m, v.foundBy m ∈ found := by
  obtain ⟨hs, _, hloaded⟩ := Store.ofRecords_spec hdata
  obtain ⟨name, hname, rfl⟩ := Store.exists_string_of_isValid hc hvalid
  obtain ⟨found, session', hrun, _, rfl⟩ := l.gives_vulnerabilities hs hloaded tree hvalid session hsession
  rw [hname]
  refine ⟨_, session', hrun, ?_⟩
  -- the row itself is an entry of exactly the version that is looked up
  have hentry : r.entry ∈ v.entriesFor (Cpe.parse name).key := by
    refine List.mem_filterMap.2 ⟨r, hr, ?_⟩
    exact SoftwareRecord.entryFor?_eq_some_iff.2
      ⟨name, hname, hvalid, rfl, SoftwareRecord.entry_of_string hname⟩
  have hversion : (r.entry.version == (Cpe.parse name).version) = true := by
    rw [SoftwareRecord.entry_of_string hname]
    exact Version.beq_self _
  obtain ⟨m, hm⟩ := Option.isSome_iff_exists.1 <|
    l.engine.match?_isSome_of_mem (some (Cpe.parse name).vendor) (some (Cpe.parse name).product)
      hentry hversion
  exact ⟨m, (l.mem_foundOn_iff hs name _).2 ⟨key, v, m, hv, hm, rfl⟩⟩

/-- The single version 1.5 that `B` lists beside a range of another major version is found. -/
theorem foundBy_mem_vulnerabilities_givenTwice :
    ∃ v, (Store.ofRecords givenTwice).store.held[Json.Key.text "B"]? = some v ∧
      ⟨.string "B", .string "cpe:/a:v:p:1.5", .null⟩ ∈ v.software ∧
      (Cpe.parse "cpe:/a:v:p:1.5").isValid = true ∧ ∃ found session',
        (vulnerabilities ⟨.standard, true⟩ (Store.source default) (.string "cpe:/a:v:p:1.5")).start
          givenTwiceSession = (.ok found, session') ∧ ∃ m, v.foundBy m ∈ found := by
  have hdata : (Store.ofRecords givenTwice).fault = none := rfl
  have hvalid : (Cpe.parse "cpe:/a:v:p:1.5").isValid = true := rfl
  have hsession : givenTwiceSession.state.data = (Store.ofRecords givenTwice).store := by
    rw [givenTwiceSession]
  obtain ⟨v, hv, hr⟩ : ∃ v, (Store.ofRecords givenTwice).store.held[Json.Key.text "B"]? = some v ∧
      ⟨.string "B", .string "cpe:/a:v:p:1.5", .null⟩ ∈ v.software :=
    ⟨_, rfl, List.mem_cons_of_mem _ (List.mem_cons_self ..)⟩
  have hfound := foundBy_mem_vulnerabilities ⟨.standard, true⟩ hdata default givenTwiceSession
    hsession hv hr (Cpe.ofJson_string "cpe:/a:v:p:1.5") hvalid
  exact ⟨v, hv, hr, hvalid, hfound⟩

end Lookup

end CpeMatch
