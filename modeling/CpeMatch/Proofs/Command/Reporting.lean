import CpeMatch.Proofs.Command.Opening
import CpeMatch.Proofs.Command.Printing

/-!
**A check behind its lookup.**

It prints the list of what has been found, saves a document of it if it is to, and shows times if they are asked
for.  If the console takes all of this, a list that can be shown ends with the status of the list or with a fault
that can be reported.

Main definitions:

* `CpeMatch.Command.reportFound` — a check behind its lookup;
* `CpeMatch.Command.savedOf`, `CpeMatch.Command.addedTo` — what the options add to the list.

Main results:

* `CpeMatch.Command.checkSoftware_eq_lookUp` — a check is a lookup and its report;
* `CpeMatch.Command.start_reportFound`, `CpeMatch.Command.start_reportFound_of_error` — **what becomes of a list that
  can be shown**;
* `CpeMatch.Command.of_start_reportFound_ok`, `CpeMatch.Command.of_start_reportFound_error` — what has been done
  where it has ended;
* `CpeMatch.Command.start_check_of_foreseen`, `CpeMatch.Command.of_start_check` — what becomes of a fault.
-/

set_option autoImplicit false

namespace CpeMatch.Command

open Report Store Timing

/-! ### Times -/

/-- The row of an operation can be shown, unless the number of its items has too many digits. -/
theorem timingRow_eq (name : Text) (t : OperationTotals Float) :
    ∃ row, timingRow name t = if isLongNumeral t.items then .error .longNumeral else .ok row := by
  rw [timingRow, numeral]
  cases isLongNumeral t.items with
  | true => exact ⟨[], rfl⟩
  | false => exact ⟨_, rfl⟩

/-- The table of times. -/
def timesTable (rows : List (List Cell)) : Printed :=
  .table "Performance Summary"
    [.styled "Operation" "cyan", .aligned "Calls" .right, .aligned "Items" .right,
      ⟨"Total", .right, "green", false⟩, .aligned "Max" .right] rows

/-- The times of one lookup are shown in one table, with the same exception. -/
theorem summary_timings [Console] {m : Metric Float} {n : Nat} (hm : RecordsLookup m n) :
    ∃ rows, (timesTable rows).IsPlain ∧ (((Monitor.fresh true).record m).summary >>= timings) =
      if isLongNumeral (.whole n) then .error .longNumeral else .ok [timesTable rows] := by
  let totals : OperationTotals Float :=
    ⟨1, Duration.add Duration.zero m.time, Duration.greater Duration.zero m.time, .whole (0 + (n : Int))⟩
  have hcount : OperationTotals.zero.count m = .ok totals := by
    rw [OperationTotals.count, hm.items_eq]
    rfl
  have hsummary : ((Monitor.fresh true).record m).summary =
      .ok (some ⟨1, totalTime [m], Duration.share (totalTime [m]) 1, [(m.operation, totals)]⟩) := by
    change summarise [m] = _
    simp [summarise, operationTotals, countOperation, hcount]
  have hitems : totals.items = .whole n := congrArg Number.whole (Int.zero_add _)
  obtain ⟨row, hrow⟩ := timingRow_eq m.operation totals
  rw [hitems] at hrow
  have htimings : (((Monitor.fresh true).record m).summary >>= timings) =
      if isLongNumeral (.whole n) then .error .longNumeral else .ok [timesTable [row]] := by
    rw [hsummary]
    change timings (some _) = _
    simp only [timings, List.mapM_cons, List.mapM_nil, hrow]
    cases isLongNumeral (.whole n) <;> rfl
  cases hlong : isLongNumeral (.whole n) with
  | true =>
      rw [hlong] at htimings
      exact ⟨[], fun _ _ => ⟨⟨by decide, by decide, List.forall_mem_nil _⟩, List.forall_mem_nil _⟩, htimings⟩
  | false =>
      rw [hlong] at htimings
      refine ⟨[row], ?_, htimings⟩
      have hname : m.operation.IsBare ∧ m.operation.IsEncodable := by
        rw [hm.operation_eq]
        decide
      rw [hsummary] at htimings
      intro writes hwrites
      refine isPrintable_of_timings hwrites ?_ htimings _ (List.mem_singleton_self _)
      rintro t ht
      rw [List.mem_singleton.1 ht]
      exact ⟨hname.1, hname.2, n, hitems⟩

/-- The times that a check shows, if they are asked for. -/
def timesOf (options : CheckOptions) (monitor : Monitor Float) : Except Fault (List Printed) :=
  if options.performance then monitor.summary >>= timings else .ok []

/-- One table of times if they are asked for, and nothing if not. -/
def IsTimes (options : CheckOptions) (times : List Printed) : Prop :=
  if options.performance then ∃ columns rows, times = [.table "Performance Summary" columns rows] else times = []

theorem IsTimes.eq_nil {options : CheckOptions} {times : List Printed} (h : IsTimes options times)
    (hasked : options.performance = false) : times = [] := by
  rwa [IsTimes, if_neg (by rw [hasked]; exact Bool.false_ne_true)] at h

/-- The times of one lookup can be shown, unless the number of its items has too many digits. -/
theorem timesOf_eq [Console] (options : CheckOptions) {m : Metric Float} {n : Nat} (hm : RecordsLookup m n) :
    ∃ times, IsTimes options times ∧ (∀ p ∈ times, p.IsPlain) ∧
      timesOf options ((Monitor.fresh true).record m) =
        if options.performance && isLongNumeral (.whole n) then .error .longNumeral else .ok times := by
  unfold timesOf IsTimes
  cases options.performance with
  | false => exact ⟨[], rfl, nofun, rfl⟩
  | true =>
      obtain ⟨rows, hprintable, htimings⟩ := summary_timings hm
      exact ⟨_, ⟨_, rows, rfl⟩, fun p hp => by rwa [List.mem_singleton.1 hp], htimings⟩

/-! ### What the options add -/

/-- The document of a check. -/
def documentOf (setting : Setting) (options : CheckOptions) (found : List Vulnerability) (time : Float) :
    Except Fault Json :=
  lookupDocument (.string options.cpe) found (.float time) setting.moment
    (.object [("database", .string (Files.Path.parse options.database).text),
      ("version", .string programVersion)])

theorem exists_documentOf (setting : Setting) (options : CheckOptions) {found : List Vulnerability}
    (hread : ∀ w ∈ found, w.IsRead) (time : Float) :
    ∃ document, documentOf setting options found time = .ok document := exists_lookupDocument hread ..

/-- What becomes of the files: the document is saved if it is to be. -/
def savedOf (options : CheckOptions) (document : Json) (tree : Files.Tree) : Saved :=
  match options.output with
  | none => ⟨tree, [], none⟩
  | some output => save tree document (some (Files.Path.parse output))

/-- What a check prints behind the list, if it is saved and the times can be shown. -/
def addedTo (options : CheckOptions) (document : Json) (tree : Files.Tree) (monitor : Monitor Float) :
    Except Fault (List Printed) :=
  match (savedOf options document tree).fault with
  | some f => .error f
  | none => timesOf options monitor

/-- The status of a check that ends without a fault. -/
def statusOf (options : CheckOptions) (found : List Vulnerability) : Nat :=
  if options.failOnMatch && !found.isEmpty then 2 else 0

theorem statusOf_ne_one (options : CheckOptions) (found : List Vulnerability) : statusOf options found ≠ 1 := by
  rw [statusOf]
  split <;> decide

section

variable {options : CheckOptions} {document : Json} {tree : Files.Tree} {monitor : Monitor Float} {m : Metric Float}
  {n : Nat} (hm : RecordsLookup m n) (hmonitor : monitor = (Monitor.fresh true).record m)

include hm hmonitor

/-- What goes wrong behind the list can be reported. -/
theorem isReportable_of_addedTo [Console] {f : Fault} (h : addedTo options document tree monitor = .error f) :
    f.IsReportable := by
  obtain ⟨times, -, -, htimes⟩ := timesOf_eq options hm
  rw [addedTo, hmonitor, htimes] at h
  split at h
  next f' hfault =>
    cases h
    rw [savedOf] at hfault
    split at hfault
    · cases hfault
    · exact isReportable_of_save hfault
  next =>
    split at h
    · cases h
      exact Fault.isReportable_longNumeral
    · cases h

/-- What is printed behind the list are the times. -/
theorem isTimes_of_addedTo [Console] {times : List Printed} (h : addedTo options document tree monitor = .ok times) :
    (savedOf options document tree).fault = none ∧ IsTimes options times ∧ ∀ p ∈ times, p.IsPlain := by
  obtain ⟨others, hshape, hprintable, htimes⟩ := timesOf_eq options hm
  rw [addedTo, hmonitor, htimes] at h
  split at h
  next => cases h
  next hsave =>
    refine ⟨hsave, ?_⟩
    split at h
    · cases h
    · cases h
      exact ⟨hshape, hprintable⟩

/-- Nothing goes wrong there, unless the list cannot be saved, or its length not be written. -/
theorem exists_addedTo [Console] (hsave : (savedOf options document tree).fault = none)
    (hshort : options.performance = true → isLongNumeral (.whole n) = false) :
    ∃ times, addedTo options document tree monitor = .ok times := by
  obtain ⟨times, -, -, htimes⟩ := timesOf_eq options hm
  have hwritten : (options.performance && isLongNumeral (.whole n)) = false := by
    cases hasked : options.performance with
    | false => rfl
    | true => exact hshort hasked
  rw [hwritten] at htimes
  refine ⟨times, ?_⟩
  rw [addedTo, hsave, hmonitor, htimes]
  rfl

end

/-! ### Saving -/

/-- Saving writes the document to the file, and says so. -/
theorem start_saveDocument {setting : Setting} {options : CheckOptions} {found : List Vulnerability} {time : Float}
    {document : Json} (hdocument : documentOf setting options found time = .ok document) (output : Text)
    (session : Session Float State) :
    let saved := save session.state.tree document (some (Files.Path.parse output))
    (saveDocument setting options found time output).start session =
      (match saved.fault with
        | some f => .error f
        | none => .ok (),
      { session with
        log := session.log ++ saved.log.toArray
        state := { session.state with tree := saved.tree } }) := by
  intro saved
  rw [documentOf] at hdocument
  rw [saveDocument, Task.start_bind (Task.start_settle hdocument session),
    Task.start_bind (Task.start_state session), Task.start_bind (Task.start_noteAll ..),
    Task.start_bind (Task.start_change ..)]
  cases saved.fault <;> rfl

/-- Saves the document of a check if it is to be saved. -/
def saving (setting : Setting) (options : CheckOptions) (found : List Vulnerability) (time : Float) :
    CommandTask Unit :=
  match options.output with
  | some output => saveDocument setting options found time output
  | none => pure ()

theorem start_saving {setting : Setting} {options : CheckOptions} {found : List Vulnerability} {time : Float}
    {document : Json} (hdocument : documentOf setting options found time = .ok document)
    (session : Session Float State) :
    let saved := savedOf options document session.state.tree
    (saving setting options found time).start session =
      (match saved.fault with
        | some f => .error f
        | none => .ok (),
      { session with
        log := session.log ++ saved.log.toArray
        state := { session.state with tree := saved.tree } }) := by
  rw [saving, savedOf]
  cases options.output with
  | none =>
      dsimp only
      rw [Array.append_empty]
      rfl
  | some output => exact start_saveDocument hdocument output session

/-! ### A check behind its lookup -/

variable [Console]

/-- How a check ends: its times are shown if they are asked for. -/
def showTimes (options : CheckOptions) (found : List Vulnerability) : CommandTask Nat := do
  if options.performance then
    let printed ← settle ((← Task.state).lookups.monitor.summary >>= timings)
    present ⟨printed, none⟩
  return if options.failOnMatch && !found.isEmpty then 2 else 0

/-- What a check does when it has found what there is to be found. -/
def reportFound (setting : Setting) (options : CheckOptions) (found : List Vulnerability) (time : Float) :
    CommandTask Nat := do
  present (lookupReport (.string options.cpe) found (.float time))
  saving setting options found time
  showTimes options found

theorem checkSoftware_eq_lookUp (setting : Setting) (options : CheckOptions) :
    checkSoftware setting options =
      lookUp setting options >>= fun (found, time) => reportFound setting options found time := by
  rcases options with ⟨cpe, database, output, _, _, _, _⟩
  simp only [lookUp, bind_assoc, pure_bind]
  cases output <;> rfl

/-- A check goes on from the end of its lookup. -/
theorem start_checkSoftware {setting : Setting} {options : CheckOptions} {found : List Vulnerability} {time : Float}
    {session reported : Session Float State}
    (h : (lookUp setting options).start session = (.ok (found, time), reported)) :
    (checkSoftware setting options).start session = (reportFound setting options found time).start reported := by
  rw [checkSoftware_eq_lookUp, Task.start_bind h]

/-- A check ends where its lookup fails. -/
theorem start_checkSoftware_error {setting : Setting} {options : CheckOptions} {f : Fault}
    {session reported : Session Float State} (h : (lookUp setting options).start session = (.error f, reported)) :
    (checkSoftware setting options).start session = (.error f, reported) := by
  rw [checkSoftware_eq_lookUp, Task.start_bind_error h]

/-- A check that has ended has failed to look the name up, with nothing shown, or has gone on to its report. -/
theorem of_start_checkSoftware {setting : Setting} {options : CheckOptions} {result : Except Fault Nat}
    {session ended : Session Float State} (h : (checkSoftware setting options).start session = (result, ended)) :
    (∃ f, result = .error f ∧ IsUntouched session.state ended.state) ∨
      ∃ found time reported, (lookUp setting options).start session = (.ok (found, time), reported) ∧
        (reportFound setting options found time).start reported = (result, ended) := by
  cases hlook : (lookUp setting options).start session with
  | mk lookedUp reported =>
      cases lookedUp with
      | error f =>
          cases (start_checkSoftware_error hlook).symm.trans h
          exact Or.inl ⟨f, rfl, isUntouched_of_start_lookUp hlook⟩
      | ok lookedUp =>
          obtain ⟨found, time⟩ := lookedUp
          exact Or.inr ⟨found, time, reported, rfl, (start_checkSoftware hlook).symm.trans h⟩

section

variable {options : CheckOptions} (found : List Vulnerability) {session : Session Float State}

theorem start_showTimes_error {f : Fault} (htimes : timesOf options session.state.lookups.monitor = .error f) :
    (showTimes options found).start session = (.error f, session) := by
  rw [timesOf] at htimes
  rw [showTimes]
  cases hperformance : options.performance with
  | false =>
      rw [hperformance] at htimes
      cases htimes
  | true =>
      rw [hperformance] at htimes
      exact (Task.start_bind (Task.start_state session)).trans
        (Task.start_bind_error (Task.start_settle_error htimes session))

variable {times : List Printed} (htimes : timesOf options session.state.lookups.monitor = .ok times)

include htimes

/-- Showing times is presenting them. -/
theorem start_showTimes_eq : (showTimes options found).start session =
    (do
      present ⟨times, none⟩
      return statusOf options found : CommandTask Nat).start session := by
  rw [timesOf] at htimes
  rw [showTimes]
  cases hperformance : options.performance with
  | false =>
      rw [hperformance] at htimes
      cases htimes
      rfl
  | true =>
      rw [hperformance, if_pos rfl] at htimes
      exact (Task.start_bind (Task.start_state session)).trans
        (Task.start_bind (Task.start_settle htimes session))

variable (hnone : session.state.refused = #[])

include hnone

/-- Times that the console takes are printed. -/
theorem start_showTimes (htakes : Takes session.state.printed.toList times) :
    (showTimes options found).start session = (.ok (statusOf options found), shown times session) := by
  rw [start_showTimes_eq found htimes, Task.start_bind (start_present_of_takes hnone htakes)]
  rfl

/-- If it does not take them, it has refused something. -/
theorem start_showTimes_of_not_takes (htakes : ¬ Takes session.state.printed.toList times) :
    ∃ f ended, (showTimes options found).start session = (.error f, ended) ∧ ended.state.refused ≠ #[] := by
  obtain ⟨f, before, p, after, -, hrun⟩ := start_present_of_not_takes (r := ⟨times, none⟩) hnone htakes
  exact ⟨f, _, by rw [start_showTimes_eq found htimes, Task.start_bind_error hrun], by simp⟩

end

/-- The session behind a list that has been printed and saved. -/
def listed (options : CheckOptions) (found : List Vulnerability) (time : Float) (document : Json)
    (session : Session Float State) : Session Float State :=
  let report := lookupReport (.string options.cpe) found (.float time)
  let saved := savedOf options document session.state.tree
  { shown report.printed session with
    log := session.log ++ saved.log.toArray
    state := { (shown report.printed session).state with tree := saved.tree } }

section

variable {setting : Setting} {options : CheckOptions} {found : List Vulnerability} {time : Float}
  {session : Session Float State}

theorem toList_printed_listed (document : Json) : (listed options found time document session).state.printed.toList =
    session.state.printed.toList ++ (lookupReport (.string options.cpe) found (.float time)).printed :=
  toList_printed_shown _ session

variable (hnone : session.state.refused = #[])

include hnone

/-- A list that the console does not take ends a check, and it has refused something. -/
theorem start_reportFound_of_not_takes
    (htakes : ¬ Takes session.state.printed.toList
      (lookupReport (.string options.cpe) found (.float time)).printed) :
    ∃ f ended, (reportFound setting options found time).start session = (.error f, ended) ∧
      ended.state.refused ≠ #[] := by
  obtain ⟨f, before, p, after, -, hrun⟩ := start_present_of_not_takes hnone htakes
  exact ⟨f, _, Task.start_bind_error hrun, by simp⟩

variable (htakes : Takes session.state.printed.toList
  (lookupReport (.string options.cpe) found (.float time)).printed)

include htakes

/-- Nothing is done behind a list that cannot be shown in full. -/
theorem start_reportFound_of_fault {f : Fault}
    (hreport : (lookupReport (.string options.cpe) found (.float time)).fault = some f) :
    (reportFound setting options found time).start session =
      (.error f, shown (lookupReport (.string options.cpe) found (.float time)).printed session) := by
  have hpresent := start_present_of_takes hnone htakes
  rw [hreport] at hpresent
  exact Task.start_bind_error hpresent

variable (hreport : (lookupReport (.string options.cpe) found (.float time)).fault = none)

include hreport

/-- A check that can show its list goes on from there with what the options add. -/
theorem start_reportFound_eq :
    (reportFound setting options found time).start session = (do
      saving setting options found time
      showTimes options found : CommandTask Nat).start
        (shown (lookupReport (.string options.cpe) found (.float time)).printed session) := by
  have hpresent := start_present_of_takes hnone htakes
  rw [hreport] at hpresent
  exact Task.start_bind hpresent

variable {document : Json} (hdocument : documentOf setting options found time = .ok document)

include hdocument

/-- A fault behind the list comes out, and what has been printed is the list. -/
theorem start_reportFound_of_error {f : Fault}
    (hadded : addedTo options document session.state.tree session.state.lookups.monitor = .error f) :
    ∃ ended, (reportFound setting options found time).start session = (.error f, ended) ∧
      ended.state.printed.toList = session.state.printed.toList ++
        (lookupReport (.string options.cpe) found (.float time)).printed ∧
      ended.state.refused = #[] := by
  rw [start_reportFound_eq hnone htakes hreport]
  have hsaving := start_saving hdocument
    (shown (lookupReport (.string options.cpe) found (.float time)).printed session)
  rw [addedTo] at hadded
  split at hadded
  next f' hfault =>
    cases hadded
    simp only [shown, hfault] at hsaving ⊢
    exact ⟨_, Task.start_bind_error hsaving, Array.toList_append .., hnone⟩
  next hfault =>
    simp only [shown, hfault] at hsaving ⊢
    rw [Task.start_bind hsaving]
    exact ⟨_, start_showTimes_error found hadded, Array.toList_append .., hnone⟩

variable {times : List Printed}
  (hadded : addedTo options document session.state.tree session.state.lookups.monitor = .ok times)

include hadded

/-- Behind a list that has been saved the times are shown. -/
theorem start_reportFound_eq_showTimes :
    (reportFound setting options found time).start session =
        (showTimes options found).start (listed options found time document session) ∧
      timesOf options (listed options found time document session).state.lookups.monitor = .ok times := by
  rw [start_reportFound_eq hnone htakes hreport]
  -- What is saved depends on the files alone, so the session with the list saves the same.
  have hsaving := start_saving hdocument
    (shown (lookupReport (.string options.cpe) found (.float time)).printed session)
  rw [addedTo] at hadded
  split at hadded
  next f hfault => cases hadded
  next hfault =>
    simp only [shown, hfault] at hsaving ⊢
    exact ⟨Task.start_bind hsaving, hadded⟩

/-- **A check behind its lookup** prints the list, saves it, and shows the times; without a fault it ends with the
status of the list. -/
theorem start_reportFound
    (htimes : Takes (session.state.printed.toList ++
      (lookupReport (.string options.cpe) found (.float time)).printed) times) :
    (reportFound setting options found time).start session =
      (.ok (statusOf options found), shown times (listed options found time document session)) := by
  rw [← toList_printed_listed document] at htimes
  obtain ⟨hrun, hof⟩ := start_reportFound_eq_showTimes hnone htakes hreport hdocument hadded
  exact hrun.trans (start_showTimes found hof hnone htimes)

/-- Times that the console does not take end the check, and it has refused something. -/
theorem start_reportFound_of_not_takes_times
    (htimes : ¬ Takes (session.state.printed.toList ++
      (lookupReport (.string options.cpe) found (.float time)).printed) times) :
    ∃ f ended, (reportFound setting options found time).start session = (.error f, ended) ∧
      ended.state.refused ≠ #[] := by
  rw [← toList_printed_listed document] at htimes
  obtain ⟨hrun, hof⟩ := start_reportFound_eq_showTimes hnone htakes hreport hdocument hadded
  obtain ⟨f, ended, hend, hrefused⟩ := start_showTimes_of_not_takes found hof hnone htimes
  exact ⟨f, ended, hrun.trans hend, hrefused⟩

end

/-! ### What has been done -/

section

variable {setting : Setting} {options : CheckOptions} {found : List Vulnerability} {time : Float}
  {document : Json} (hdocument : documentOf setting options found time = .ok document)
  {session ended : Session Float State} (hnone : session.state.refused = #[])

include hdocument hnone

/-- A check that has ended without a fault has shown its list, and nothing has gone wrong behind it. -/
theorem of_start_reportFound_ok {status : Nat}
    (h : (reportFound setting options found time).start session = (.ok status, ended)) :
    (lookupReport (.string options.cpe) found (.float time)).fault = none ∧
      ∃ times, addedTo options document session.state.tree session.state.lookups.monitor = .ok times ∧
        Takes session.state.printed.toList
          ((lookupReport (.string options.cpe) found (.float time)).printed ++ times) := by
  by_cases htakes : Takes session.state.printed.toList
      (lookupReport (.string options.cpe) found (.float time)).printed
  case neg =>
    obtain ⟨f, _, hrun, -⟩ := start_reportFound_of_not_takes hnone htakes
    cases h.symm.trans hrun
  cases hreport : (lookupReport (.string options.cpe) found (.float time)).fault with
  | some f => cases (start_reportFound_of_fault hnone htakes hreport).symm.trans h
  | none =>
      refine ⟨rfl, ?_⟩
      cases hadded : addedTo options document session.state.tree session.state.lookups.monitor with
      | error f =>
          obtain ⟨_, hrun, -⟩ := start_reportFound_of_error hnone htakes hreport hdocument hadded
          cases hrun.symm.trans h
      | ok times =>
          refine ⟨times, rfl, (takes_append ..).2 ⟨htakes, ?_⟩⟩
          by_contra htimes
          obtain ⟨f, _, hrun, -⟩ :=
            start_reportFound_of_not_takes_times hnone htakes hreport hdocument hadded htimes
          cases hrun.symm.trans h

/-- A check that has ended with a fault, and not with one of the console, could not show its list in full, or has
printed this and nothing else. -/
theorem of_start_reportFound_error {f : Fault}
    (h : (reportFound setting options found time).start session = (.error f, ended))
    (hended : ended.state.refused = #[]) :
    (lookupReport (.string options.cpe) found (.float time)).fault = some f ∨
      (lookupReport (.string options.cpe) found (.float time)).fault = none ∧
        ended.state.printed.toList = session.state.printed.toList ++
          (lookupReport (.string options.cpe) found (.float time)).printed := by
  by_cases htakes : Takes session.state.printed.toList
      (lookupReport (.string options.cpe) found (.float time)).printed
  case neg =>
    obtain ⟨_, _, hrun, hrefused⟩ := start_reportFound_of_not_takes hnone htakes
    cases h.symm.trans hrun
    exact absurd hended hrefused
  cases hreport : (lookupReport (.string options.cpe) found (.float time)).fault with
  | some f' =>
      cases (start_reportFound_of_fault hnone htakes hreport).symm.trans h
      exact Or.inl rfl
  | none =>
      refine Or.inr ⟨rfl, ?_⟩
      cases hadded : addedTo options document session.state.tree session.state.lookups.monitor with
      | error f' =>
          obtain ⟨_, hrun, hprinted, -⟩ := start_reportFound_of_error hnone htakes hreport hdocument hadded
          cases hrun.symm.trans h
          exact hprinted
      | ok times =>
          by_cases htimes : Takes (session.state.printed.toList ++
              (lookupReport (.string options.cpe) found (.float time)).printed) times
          · cases (start_reportFound hnone htakes hreport hdocument hadded htimes).symm.trans h
          · obtain ⟨_, _, hrun, hrefused⟩ :=
              start_reportFound_of_not_takes_times hnone htakes hreport hdocument hadded htimes
            cases hrun.symm.trans h
            exact absurd hended hrefused

end

/-! ### The end of a check -/

/-- The session in which a check has said in the log that it has failed. -/
def noted (f : Fault) (session : Session Float State) : Session Float State :=
  { session with log := session.log.push (Log.Channel.command.record .error ("Check failed: " ++ f.message)) }

section

variable {setting : Setting} {options : CheckOptions} {session ended : Session Float State}

theorem run_check {result : Except Fault Nat} (h : (check setting options).start (startOf setting) = (result, ended)) :
    run setting (.check options) = ⟨result, ended.state.printed.toList,
      ended.log.toList.filter (registry (.check options)).admits, ended.state.tree⟩ := by
  rw [run]
  exact congrArg (fun r : Except Fault Nat × Session Float State => (⟨r.1, r.2.state.printed.toList,
    r.2.log.toList.filter (registry (.check options)).admits, r.2.state.tree⟩ : Ending)) h

/-- A check of a name that says no vendor or product prints one line. -/
theorem check_of_not_isValid (hvalid : (Cpe.parse options.cpe).isValid = false) :
    check setting options = do
      print (invalidLine options.cpe)
      return 1 := if_neg (by rw [hvalid]; exact Bool.false_ne_true)

theorem check_of_isValid (hvalid : (Cpe.parse options.cpe).isValid = true) :
    check setting options = reporting
      (fun f => Task.note (Log.Channel.command.record .error ("Check failed: " ++ f.message)))
      (checkSoftware setting options) pure := if_pos hvalid

variable (hvalid : (Cpe.parse options.cpe).isValid = true)

include hvalid

theorem start_check_of_ok {status : Nat}
    (h : (checkSoftware setting options).start session = (.ok status, ended)) :
    (check setting options).start session = (.ok status, ended) := by
  rw [check_of_isValid hvalid, start_reporting_of_ok h]
  rfl

theorem start_check_of_unforeseen {f : Fault}
    (h : (checkSoftware setting options).start session = (.error f, ended)) (hf : f.isForeseen = false) :
    (check setting options).start session = (.error f, ended) := by
  rw [check_of_isValid hvalid, start_reporting_of_unforeseen h hf]

/-- A fault that is foreseen is said in the log and in a line in red, behind what has been printed. -/
theorem start_check_of_foreseen {f : Fault}
    (h : (checkSoftware setting options).start session = (.error f, ended)) (hf : f.isForeseen = true) :
    (check setting options).start session = (do
      print (faultLine f)
      return 1 : CommandTask Nat).start (noted f ended) := by
  rw [check_of_isValid hvalid, start_reporting_of_foreseen h hf, Task.start_bind (Task.start_note ..)]
  rfl

/-- A fault that can be reported gives the status one. -/
theorem start_check_of_isReportable {writes : CodePoint → Bool} (hconsole : Console.Lawful writes) {f : Fault}
    (h : (checkSoftware setting options).start session = (.error f, ended)) (hf : f.isForeseen = true)
    (hmessage : f.message.IsWritable writes) (hnone : ended.state.refused = #[]) :
    (check setting options).start session = (.ok 1, shown [faultLine f] (noted f ended)) := by
  have hline : Takes (noted f ended).state.printed.toList [faultLine f] :=
    ⟨hconsole.prints _ _ (isPrintable_faultLine hconsole hmessage), trivial⟩
  have hnoted : (noted f ended).state.refused = #[] := hnone
  rw [start_check_of_foreseen hvalid h hf, Task.start_bind (start_print_of_takes hnoted hline)]
  rfl

omit hvalid in
/-- **A check that has ended with a status** has come to its end, or has printed one line in red behind everything
else: that the name says no vendor or product, or a fault that is foreseen. -/
theorem of_start_check {status : Nat} (h : (check setting options).start session = (.ok status, ended)) :
    (Cpe.parse options.cpe).isValid = true ∧ (checkSoftware setting options).start session = (.ok status, ended) ∨
      status = 1 ∧ ((Cpe.parse options.cpe).isValid = false ∧ ended = shown [invalidLine options.cpe] session ∨
        (Cpe.parse options.cpe).isValid = true ∧ ∃ f before,
          (checkSoftware setting options).start session = (.error f, before) ∧ f.isForeseen = true ∧
            ended = shown [faultLine f] (noted f before)) := by
  cases hvalid : (Cpe.parse options.cpe).isValid with
  | false =>
      rw [check_of_not_isValid hvalid] at h
      obtain ⟨rfl, rfl⟩ := of_start_line h
      exact Or.inr ⟨rfl, Or.inl ⟨rfl, rfl⟩⟩
  | true =>
      cases hrun : (checkSoftware setting options).start session with
      | mk result before =>
          cases result with
          | ok _ =>
              cases (start_check_of_ok hvalid hrun).symm.trans h
              exact Or.inl ⟨rfl, rfl⟩
          | error f =>
              cases hf : f.isForeseen with
              | false => cases (start_check_of_unforeseen hvalid hrun hf).symm.trans h
              | true =>
                  rw [start_check_of_foreseen hvalid hrun hf] at h
                  obtain ⟨rfl, rfl⟩ := of_start_line h
                  exact Or.inr ⟨rfl, Or.inr ⟨rfl, f, before, rfl, hf, rfl⟩⟩

end

end CpeMatch.Command
