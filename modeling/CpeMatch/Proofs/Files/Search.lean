import CpeMatch.Files.Search
import CpeMatch.Proofs.Files.NewFile
import CpeMatch.Proofs.StableSort

/-!
**Searching a folder with a new file.**

A search looks at folders only through the names in them.  So when a file has been put somewhere, a search
that has come to its end before does so again, and finds what it has found before in the same order, with
the paths to the new file put in between if the pattern fits them.

Main definitions:

* `CpeMatch.Files.Tree.Keeps` — a search finds what another finds, but for what is new.

Main results:

* `CpeMatch.Files.Tree.Gains.keeps_visitFrom`, `CpeMatch.Files.Tree.Gains.keeps_select` — visits and
  selections keep what they have found;
* `CpeMatch.Files.Tree.Gains.keeps_search` — **searches do**.
-/

set_option autoImplicit false

namespace CpeMatch.Files

/-! ### Lists of paths -/

theorem Path.not_before_iff (p q : Path) :
    (!q.before p) = true ↔ (compare p.parts q.parts).isLE = true := by
  have hswap : compare q.parts p.parts = (compare p.parts q.parts).swap := Std.OrientedCmp.eq_swap
  rw [before, hswap]
  cases compare p.parts q.parts <;> decide

theorem Path.not_before_trans (p q r : Path) (hpq : (!q.before p) = true) (hqr : (!r.before q) = true) :
    (!r.before p) = true := by
  rw [not_before_iff] at hpq hqr ⊢
  exact Std.TransCmp.isLE_trans hpq hqr

theorem Path.not_before_total (p q : Path) : (!q.before p || !p.before q) = true := by
  have hswap : compare q.parts p.parts = (compare p.parts q.parts).swap := Std.OrientedCmp.eq_swap
  rw [Bool.or_eq_true, not_before_iff, not_before_iff, hswap]
  cases compare p.parts q.parts <;> decide

/-- Choosing some of the paths commutes with taking each once. -/
theorem filter_eraseDups (chosen : Path → Bool) (paths : List Path) :
    paths.eraseDups.filter chosen = (paths.filter chosen).eraseDups := by
  induction hn : paths.length using Nat.strongRecOn generalizing paths with
  | ind n ih =>
  cases paths with
  | nil => rfl
  | cons p rest =>
      have hlength : (rest.filter fun q => !q == p).length < n := by
        have hle := List.length_filter_le (fun q => !q == p) rest
        simp only [List.length_cons] at hn
        omega
      have hrest := ih _ hlength _ rfl
      rw [List.eraseDups_cons]
      cases hp : chosen p with
      | true =>
          rw [List.filter_cons_of_pos hp, List.filter_cons_of_pos hp, List.eraseDups_cons, hrest,
            List.filter_comm]
      | false =>
          -- what is not chosen is not found again among the chosen
          rw [List.filter_cons_of_neg (by simp [hp]), List.filter_cons_of_neg (by simp [hp]), hrest,
            List.filter_filter]
          congr 1
          refine List.filter_congr ?_
          intro q _
          by_cases hq : q = p
          · simp [hq, hp]
          · simp [hq]

namespace Tree

namespace Gains

variable {t t' : Tree} {folder : Place} {name : Text} {bytes : List UInt8}

/-! ### Folders -/

/-- The names in a folder are those that have been there, but for that of the new file. -/
theorem entries? (h : t.Gains t' folder name bytes) (p : Path) :
    t'.entries? p = t.entries? p ∨
      (t.locate p = .ok folder ∧ ∃ entries, t.entries? p = .ok (some entries) ∧
        t'.entries? p = .ok (some (entries ++ [(name, false)]))) := by
  rw [Tree.entries?, Tree.entries?]
  cases hp : t.leadsTo (folder.child name) p with
  | true =>
      rcases h.see_new hp with ⟨hsee, _⟩ | ⟨hbefore, hafter⟩
      · exact Or.inl (by rw [hsee])
      · exact Or.inl (by rw [hbefore, hafter])
  | false =>
      rcases h.see hp with hsee | ⟨hbefore, hafter⟩ | ⟨hfolder, entries, hbefore, hafter⟩
      · exact Or.inl (by rw [hsee])
      · exact Or.inl (by rw [hbefore, hafter])
      · exact Or.inr ⟨hfolder, entries, by rw [hbefore], by rw [hafter]⟩

theorem entries (h : t.Gains t' folder name bytes) (p : Path) :
    t'.entries p = t.entries p ∨
      (t.locate p = .ok folder ∧ ∃ entries, t.entries p = .ok entries ∧
        t'.entries p = .ok (entries ++ [(name, false)])) := by
  rw [Tree.entries, Tree.entries]
  rcases h.entries? p with hentries | ⟨hfolder, entries, hbefore, hafter⟩
  · exact Or.inl (by rw [hentries])
  · exact Or.inr ⟨hfolder, entries, by rw [hbefore]; rfl, by rw [hafter]; rfl⟩

theorem leadsToFolder (h : t.Gains t' folder name bytes) (p : Path) :
    t'.leadsToFolder p = t.leadsToFolder p := by
  rw [leadsToFolder_eq_entries?, leadsToFolder_eq_entries?]
  rcases h.entries? p with hentries | ⟨_, entries, hbefore, hafter⟩
  · rw [hentries]
  · rw [hbefore, hafter]
    rfl

/-- A path that leads to something does not lead to the new file. -/
theorem leadsTo_of_see (h : t.Gains t' folder name bytes) {p : Path} {view : View}
    (hsee : t.see p = .ok view) : t.leadsTo (folder.child name) p = false := by
  rw [← Bool.not_eq_true]
  intro hp
  rcases h.see_new hp with ⟨_, f, hbefore⟩ | ⟨hbefore, _⟩
  · rw [hsee] at hbefore
    cases hbefore
  · rw [hsee] at hbefore
    cases hbefore

theorem leadsTo_of_leadsToFolder (h : t.Gains t' folder name bytes) {p : Path}
    (hp : t.leadsToFolder p = .ok true) : t.leadsTo (folder.child name) p = false := by
  rw [leadsToFolder_eq_entries?, Tree.entries?] at hp
  cases hsee : t.see p with
  | ok view => exact h.leadsTo_of_see hsee
  | error f => rw [hsee] at hp; cases f <;> cases hp

theorem leadsTo_of_holds (h : t.Gains t' folder name bytes) {p : Path} (hp : t.holds p = .ok true) :
    t.leadsTo (folder.child name) p = false := by
  rw [holds_eq_see] at hp
  cases hsee : t.see p with
  | ok view => exact h.leadsTo_of_see hsee
  | error f => rw [hsee] at hp; cases f <;> cases hp

/-- There is something where there has been something, and at the end of paths to the new file. -/
theorem holds (h : t.Gains t' folder name bytes) (p : Path) :
    t'.holds p = t.holds p ∨
      (t.leadsTo (folder.child name) p = true ∧ t.holds p = .ok false ∧ t'.holds p = .ok true) := by
  rw [holds_eq_see, holds_eq_see]
  cases hp : t.leadsTo (folder.child name) p with
  | true =>
      rcases h.see_new hp with ⟨hsee, _⟩ | ⟨hbefore, hafter⟩
      · exact Or.inl (by rw [hsee])
      · exact Or.inr ⟨rfl, by rw [hbefore], by rw [hafter]⟩
  | false =>
      rcases h.see hp with hsee | ⟨hbefore, hafter⟩ | ⟨_, entries, hbefore, hafter⟩
      · exact Or.inl (by rw [hsee])
      · exact Or.inl (by rw [hbefore, hafter])
      · exact Or.inl (by rw [hbefore, hafter])

/-- A name that has been in a folder does not lead to the new file. -/
theorem leadsTo_child_of_mem (h : t.Gains t' folder name bytes) {p : Path}
    {found : List (Text × Bool)} (hfound : t.entries p = .ok found) {entry : Text × Bool}
    (hentry : entry ∈ found) : t.leadsTo (folder.child name) (p.child entry.1) = false := by
  obtain ⟨place, hplace, hview⟩ := exists_view?_of_entries hfound (List.ne_nil_of_mem hentry)
  rw [← Bool.not_eq_true, leadsTo_iff, locate_child, hplace]
  change t.advance place entry.1 ≠ _
  rw [Tree.advance, hview]
  by_cases hup : entry.1 = ".."
  · rw [if_pos hup]
    intro hback
    -- above the folder there is one, too
    obtain ⟨contents, hat, _⟩ := view?_eq_folder_iff.1 hview
    obtain ⟨outside, houtside⟩ := exists_at?_back hat
    have hmissing := h.missing_before
    rw [← Except.ok.inj hback, view?, houtside] at hmissing
    cases hmissing
  · rw [if_neg hup]
    by_cases hlong : Path.isLongName entry.1 = true
    · rw [if_pos hlong]
      intro hchild
      cases hchild
    · rw [if_neg hlong]
      intro hchild
      obtain ⟨rfl, hlisted⟩ := Place.child_inj.1 (Except.ok.inj hchild)
      obtain ⟨entries, hbefore, hnew, _⟩ := h.seen_in_folder
      rw [hview] at hbefore
      exact hnew entry (View.folder.inj (Option.some.inj hbefore) ▸ hentry) hlisted

/-- The new name leads to the new file. -/
theorem leadsTo_child_new (h : t.Gains t' folder name bytes) {p : Path} (hp : t.locate p = .ok folder) :
    t.leadsTo (folder.child name) (p.child name) = true := by
  obtain ⟨hup, hlong, hlisted⟩ := h.leads_in
  obtain ⟨entries, hbefore, _⟩ := h.seen_in_folder
  rw [leadsTo_iff, locate_child, hp]
  change t.advance folder name = _
  simp [Tree.advance, hbefore, hup, hlong, hlisted]

end Gains

/-! ### Searching by what can be seen -/

/-- What is found for things one after another. -/
def concatMapM {α : Type} (f : α → Except Fault (List Path)) (things : List α) :
    Except Fault (List Path) := (things.mapM f).map List.flatten

@[simp] theorem concatMapM_nil {α : Type} (f : α → Except Fault (List Path)) :
    concatMapM f [] = .ok [] := rfl

theorem concatMapM_cons {α : Type} (f : α → Except Fault (List Path)) (thing : α) (things : List α) :
    concatMapM f (thing :: things) = do return (← f thing) ++ (← concatMapM f things) := by
  rw [concatMapM, concatMapM, List.mapM_cons]
  cases f thing with
  | error e => rfl
  | ok first => cases things.mapM f <;> rfl

theorem visitFrom_succ (t : Tree) (visit : Path → Except Fault (List Path)) (depth : Nat) (p : Path) :
    t.visitFrom visit (depth + 1) p = (do
      let here ← visit p
      let below ← t.entries p >>= concatMapM fun entry : Text × Bool =>
        if entry.2 then t.visitFrom visit depth (p.child entry.1) else .ok []
      return here ++ below) := by
  have hinside : ∀ (contents : Contents) (look : Text × Node → Except Fault (List Path)),
      (∀ entry, look entry =
        if entry.2.isFolder then t.visitFrom visit depth (p.child entry.1) else .ok []) →
      contents.mapM look = (Contents.entries contents).mapM fun entry : Text × Bool =>
        if entry.2 then t.visitFrom visit depth (p.child entry.1) else .ok [] := by
    intro contents look hlook
    rw [Contents.entries, List.mapM_map, funext hlook]
    rfl
  rw [visitFrom, entries_eq_listing]
  cases visit p with
  | error f => rfl
  | ok here =>
      cases t.listing p with
      | error f => rfl
      | ok contents =>
          simp only [Except.map, bind, Except.bind, concatMapM]
          rw [hinside contents]
          · split <;> rfl
          · rintro ⟨name, node⟩
            cases node <;> rfl

theorem concatMapM_filter {α : Type} (f : α → Except Fault (List Path)) (fits : α → Bool)
    (things : List α) :
    concatMapM f (things.filter fits) =
      concatMapM (fun thing => if fits thing then f thing else .ok []) things := by
  induction things with
  | nil => rfl
  | cons thing things ih =>
      rw [concatMapM_cons]
      cases hfits : fits thing with
      | true =>
          rw [List.filter_cons_of_pos hfits, concatMapM_cons, ih]
          rfl
      | false =>
          rw [List.filter_cons_of_neg (by simp [hfits]), ih]
          cases concatMapM _ things <;> rfl

theorem select_wildcard (t : Tree) (pattern : Text) (rest : List Selector) (p : Path) :
    t.select (.wildcard pattern :: rest) p =
      t.entries p >>= concatMapM fun entry : Text × Bool =>
        if matchesName pattern entry.1 && (rest.isEmpty || entry.2) then t.select rest (p.child entry.1)
        else .ok [] := by
  rw [select, entries_eq_listing]
  cases t.listing p with
  | error f => rfl
  | ok contents =>
      change _ = concatMapM _ (Contents.entries contents)
      rw [← concatMapM_filter]
      simp only [concatMapM, Contents.entries, List.filter_map, List.mapM_map, Function.comp_def]
      rfl

/-! ### What is kept -/

/-- Where `found` comes to its end, so does `foundNow`, and finds the same but for what is new. -/
def Keeps (new : Path → Bool) (found foundNow : Except Fault (List Path)) : Prop :=
  ∀ paths, found = .ok paths → ∃ pathsNow, foundNow = .ok pathsNow ∧ pathsNow.filter (!new ·) = paths

namespace Keeps

variable {new : Path → Bool} {found foundNow others othersNow : Except Fault (List Path)}

theorem nil : Keeps new (.ok []) (.ok []) := by
  rintro _ ⟨⟩
  exact ⟨[], rfl, rfl⟩

theorem single {p : Path} (hp : new p = false) : Keeps new (.ok [p]) (.ok [p]) := by
  rintro _ ⟨⟩
  exact ⟨[p], rfl, by simp [hp]⟩

theorem single_new {p : Path} (hp : new p = true) : Keeps new (.ok []) (.ok [p]) := by
  rintro _ ⟨⟩
  exact ⟨[p], rfl, by simp [hp]⟩

theorem append (h : Keeps new found foundNow) (hothers : Keeps new others othersNow) :
    Keeps new (do return (← found) ++ (← others)) (do return (← foundNow) ++ (← othersNow)) := by
  rintro paths hpaths
  cases found with
  | error f => cases hpaths
  | ok first =>
      cases others with
      | error f => cases hpaths
      | ok rest =>
          obtain ⟨firstNow, rfl, hfirst⟩ := h first rfl
          obtain ⟨restNow, rfl, hrest⟩ := hothers rest rfl
          cases hpaths
          exact ⟨firstNow ++ restNow, rfl, by rw [List.filter_append, hfirst, hrest]⟩

/-- What is found for things one after another is kept, though there are more of them at the end, if
nothing is found for these but what is new. -/
theorem concatMapM {α : Type} {f fNow : α → Except Fault (List Path)} {things more : List α}
    (h : ∀ thing ∈ things, Keeps new (f thing) (fNow thing))
    (hmore : Keeps new (.ok []) (Tree.concatMapM fNow more)) :
    Keeps new (Tree.concatMapM f things) (Tree.concatMapM fNow (things ++ more)) := by
  induction things with
  | nil => exact hmore
  | cons thing things ih =>
      rw [List.cons_append, concatMapM_cons, concatMapM_cons]
      exact (h thing (List.mem_cons_self ..)).append
        (ih fun other hother => h other (List.mem_cons_of_mem thing hother))

theorem eraseDups (h : Keeps new found foundNow) :
    Keeps new (found.map (·.eraseDups)) (foundNow.map (·.eraseDups)) := by
  rintro paths hpaths
  cases found with
  | error f => cases hpaths
  | ok first =>
      obtain ⟨firstNow, rfl, hfirst⟩ := h first rfl
      cases hpaths
      exact ⟨firstNow.eraseDups, rfl, by rw [filter_eraseDups, hfirst]⟩

/-- What is only looked for on a condition is kept. -/
theorem ifThen {condition : Except Fault Bool} (h : condition = .ok true → Keeps new found foundNow) :
    Keeps new (do if ← condition then found else return [])
      (do if ← condition then foundNow else return []) := by
  cases condition with
  | error f => exact fun _ h' => nomatch h'
  | ok is =>
      cases is with
      | true => exact h rfl
      | false => exact nil

/-- Choosing some of the paths commutes with sorting them. -/
theorem mergeSort (h : Keeps new found foundNow) :
    Keeps new (do return (← found).mergeSort fun p q => !q.before p)
      (do return (← foundNow).mergeSort fun p q => !q.before p) := by
  rintro paths hpaths
  cases found with
  | error f => cases hpaths
  | ok first =>
      obtain ⟨firstNow, rfl, hfirst⟩ := h first rfl
      cases hpaths
      refine ⟨_, rfl, ?_⟩
      rw [filter_mergeSort Path.not_before_trans Path.not_before_total, hfirst]

end Keeps

namespace Gains

variable {t t' : Tree} {folder : Place} {name : Text} {bytes : List UInt8}

/-- What is found for the names in a folder is kept, if nothing is found for the new one but what is
new. -/
theorem keeps_entries (h : t.Gains t' folder name bytes) {p : Path}
    {f fNow : Text × Bool → Except Fault (List Path)}
    (hf : ∀ entry, t.leadsTo (folder.child name) (p.child entry.1) = false →
      Keeps (t.leadsTo (folder.child name)) (f entry) (fNow entry))
    (hnew : t.leadsTo (folder.child name) (p.child name) = true →
      Keeps (t.leadsTo (folder.child name)) (.ok []) (fNow (name, false))) :
    Keeps (t.leadsTo (folder.child name)) (t.entries p >>= concatMapM f)
      (t'.entries p >>= concatMapM fNow) := by
  cases hfound : t.entries p with
  | error f => exact fun _ h' => nomatch h'
  | ok found =>
      have hold : ∀ entry ∈ found, Keeps (t.leadsTo (folder.child name)) (f entry) (fNow entry) :=
        fun entry hentry => hf entry (h.leadsTo_child_of_mem hfound hentry)
      rcases h.entries p with hentries | ⟨hfolder, entries, hbefore, hafter⟩
      · rw [hentries, hfound]
        have hall : Keeps _ (concatMapM f found) (concatMapM fNow (found ++ [])) :=
          Keeps.concatMapM hold Keeps.nil
        rwa [List.append_nil] at hall
      · obtain rfl : found = entries := Except.ok.inj (hfound.symm.trans hbefore)
        rw [hafter]
        refine Keeps.concatMapM hold ?_
        rw [concatMapM_cons, concatMapM_nil]
        exact (hnew (h.leadsTo_child_new hfolder)).append Keeps.nil

/-- **A visit keeps what it has found.** -/
theorem keeps_visitFrom (h : t.Gains t' folder name bytes) {visit visitNow : Path → Except Fault (List Path)}
    (hvisit : ∀ p, t.leadsTo (folder.child name) p = false →
      Keeps (t.leadsTo (folder.child name)) (visit p) (visitNow p)) (depth : Nat) {p : Path}
    (hp : t.leadsTo (folder.child name) p = false) :
    Keeps (t.leadsTo (folder.child name)) (t.visitFrom visit depth p) (t'.visitFrom visitNow depth p) := by
  induction depth generalizing p with
  | zero => exact fun _ h' => nomatch h'
  | succ depth ih =>
      rw [visitFrom_succ, visitFrom_succ]
      refine (hvisit p hp).append (h.keeps_entries ?_ fun _ => Keeps.nil)
      rintro ⟨next, isFolder⟩ hnext
      cases isFolder with
      | true => exact ih hnext
      | false => exact Keeps.nil

/-- **A selection keeps what it has found.** -/
theorem keeps_select (h : t.Gains t' folder name bytes) (selectors : List Selector) {p : Path}
    (hp : t.leadsTo (folder.child name) p = false) :
    Keeps (t.leadsTo (folder.child name)) (t.select selectors p) (t'.select selectors p) := by
  induction selectors generalizing p with
  | nil => exact Keeps.single hp
  | cons selector rest ih =>
      cases selector with
      | here => exact Keeps.single hp
      | folders =>
          have hbelow : Keeps (t.leadsTo (folder.child name)) (t.visitBelow (t.select rest) p)
              (t'.visitBelow (t'.select rest) p) := by
            rw [visitBelow, visitBelow, h.reach_eq]
            exact (h.keeps_visitFrom (fun q hq => ih hq) _ hp).eraseDups
          cases rest with
          | nil => exact hbelow
          | cons next others =>
              cases next with
              | folders => exact ih hp
              | wildcard pattern => exact hbelow
              | name next => exact hbelow
              | here => exact hbelow
      | wildcard pattern =>
          rw [select_wildcard, select_wildcard]
          refine h.keeps_entries ?_ ?_
          · rintro entry hentry
            split
            · exact ih hentry
            · exact Keeps.nil
          · intro hnew
            cases rest with
            | nil =>
                split
                · exact Keeps.single_new hnew
                · exact Keeps.nil
            | cons next others =>
                -- the new name is that of no folder
                rw [if_neg (by simp)]
                exact Keeps.nil
      | name next =>
          rw [select, select]
          cases rest with
          | nil =>
              change Keeps _ (t.holds (p.child next) >>= _) (t'.holds (p.child next) >>= _)
              rcases h.holds (p.child next) with hholds | ⟨hnew, hbefore, hafter⟩
              · rw [hholds]
                exact Keeps.ifThen fun hbefore => Keeps.single (h.leadsTo_of_holds hbefore)
              · rw [hbefore, hafter]
                exact Keeps.single_new hnew
          | cons other others =>
              change Keeps _ (t.leadsToFolder (p.child next) >>= _) (t'.leadsToFolder (p.child next) >>= _)
              rw [h.leadsToFolder]
              exact Keeps.ifThen fun hbefore => ih (h.leadsTo_of_leadsToFolder hbefore)

/-- **A search keeps what it has found**, in its order. -/
theorem keeps_search (h : t.Gains t' folder name bytes) (p : Path) (pattern : Text) :
    Keeps (t.leadsTo (folder.child name)) (t.search p pattern) (t'.search p pattern) := by
  rw [search, search, h.reach_eq]
  cases selectorsOf t.reach.pattern pattern with
  | error f => exact fun _ h' => nomatch h'
  | ok selectors =>
      change Keeps _ (t.leadsToFolder p >>= _) (t'.leadsToFolder p >>= _)
      rw [h.leadsToFolder]
      refine Keeps.ifThen ?_
      intro hbefore
      exact (h.keeps_select (.folders :: selectors) (h.leadsTo_of_leadsToFolder hbefore)).mergeSort

end Gains

end Tree

end CpeMatch.Files
