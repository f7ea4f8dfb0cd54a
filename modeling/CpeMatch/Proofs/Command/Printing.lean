import CpeMatch.Command.Run
import CpeMatch.Proofs.Report.Printable
import CpeMatch.Proofs.Timing.Task

/-!
**Printing, and reporting what goes wrong.**

Things are printed one after another, up to the first that the console refuses.  So if it takes them all, they stand
behind what has been printed before; and if not, some of them do, and the refusal is the fault with which printing
ends.  A fault that is foreseen is reported in one line, on the same console.

Main definitions:

* `CpeMatch.Command.Takes` — the console takes things one after another;
* `CpeMatch.Command.shown` — a session in which they have been printed.

Main results:

* `CpeMatch.Command.lawful_plainConsole` — a console that does what is expected of one;
* `CpeMatch.Command.takes_of_isPrintable` — what there is no reason to refuse is taken;
* `CpeMatch.Command.start_present_of_takes`, `CpeMatch.Command.start_present_of_not_takes` — **printing a report**;
* `CpeMatch.Command.start_reporting_of_foreseen` — what becomes of a fault.
-/

set_option autoImplicit false

namespace CpeMatch.Command

open Report Timing

/-- The console that prints whatever it is handed does what is expected of one that can write everything. -/
theorem lawful_plainConsole : @Console.Lawful plainConsole fun _ => true :=
  @Console.Lawful.mk plainConsole _ (fun _ => rfl) Text.addsSlashes_escapeMarkup fun _ _ _ => rfl

/-! ### Things that have been printed -/

/-- The session in which things have been printed behind those before. -/
def shown (ps : List Printed) (session : Session Float State) : Session Float State :=
  { session with state := { session.state with printed := session.state.printed ++ ps.toArray } }

theorem shown_nil (session : Session Float State) : shown [] session = session := by
  rw [shown, Array.append_empty]

theorem shown_shown (ps qs : List Printed) (session : Session Float State) :
    shown qs (shown ps session) = shown (ps ++ qs) session := by
  simp [shown]

theorem toList_printed_shown (ps : List Printed) (session : Session Float State) :
    (shown ps session).state.printed.toList = session.state.printed.toList ++ ps := Array.toList_append ..

/-! ### Things that the console takes -/

variable [Console]

/-- The console takes things one after another, behind those that it has printed. -/
def Takes (printed : List Printed) : List Printed → Prop
  | [] => True
  | p :: rest => Console.fault? printed [] p = none ∧ Takes (printed ++ [p]) rest

theorem takes_append (printed ps qs : List Printed) :
    Takes printed (ps ++ qs) ↔ Takes printed ps ∧ Takes (printed ++ ps) qs := by
  induction ps generalizing printed with
  | nil => simp [Takes]
  | cons p ps ih => rw [List.cons_append, Takes, Takes, ih, List.append_assoc, List.singleton_append, and_assoc]

/-- What there is no reason to refuse is taken. -/
theorem takes_of_isPrintable {writes : CodePoint → Bool} (hconsole : Console.Lawful writes)
    (printed : List Printed) {ps : List Printed} (h : ∀ p ∈ ps, p.IsPrintable writes) : Takes printed ps := by
  induction ps generalizing printed with
  | nil => exact trivial
  | cons p ps ih =>
      rw [List.forall_mem_cons] at h
      exact ⟨hconsole.prints printed p h.1, ih _ h.2⟩

theorem takes_of_isPlain {writes : CodePoint → Bool} (hconsole : Console.Lawful writes) (printed : List Printed)
    {ps : List Printed} (h : ∀ p ∈ ps, p.IsPlain) : Takes printed ps :=
  takes_of_isPrintable hconsole printed fun p hp => h p hp writes hconsole.characters

/-! ### Printing -/

section

variable {session : Session Float State} {p : Printed}

theorem start_print_of_none
    (h : Console.fault? session.state.printed.toList session.state.refused.toList p = none) :
    (print p).start session = (.ok (), shown [p] session) := by
  rw [print, Task.start_bind (Task.start_state session)]
  simp only [h]
  rw [Task.start_change, shown, Array.append_singleton]

/-- A thing that the console refuses is a fault. -/
theorem start_print_of_some {f : Fault}
    (h : Console.fault? session.state.printed.toList session.state.refused.toList p = some f) :
    (print p).start session = (.error f, { session with
      state := { session.state with refused := session.state.refused.push p } }) := by
  rw [print, Task.start_bind (Task.start_state session)]
  simp only [h]
  rw [Task.start_bind (Task.start_change _ session)]
  rfl

/-- A line that gives the status one has been printed if the status is given. -/
theorem of_start_line {status : Nat} {ended : Session Float State}
    (h : (do
      print p
      return 1 : CommandTask Nat).start session = (.ok status, ended)) : status = 1 ∧ ended = shown [p] session := by
  cases hp : Console.fault? session.state.printed.toList session.state.refused.toList p with
  | none =>
      rw [Task.start_bind (start_print_of_none hp)] at h
      cases h
      exact ⟨rfl, rfl⟩
  | some f =>
      rw [Task.start_bind_error (start_print_of_some hp)] at h
      cases h

variable (hnone : session.state.refused = #[])

include hnone

theorem start_print_of_takes (h : Takes session.state.printed.toList [p]) :
    (print p).start session = (.ok (), shown [p] session) :=
  start_print_of_none (by rw [hnone]; exact h.1)

/-- Things that the console takes have been printed. -/
theorem start_printAll_of_takes {ps : List Printed} (h : Takes session.state.printed.toList ps) :
    (printAll ps).start session = (.ok (), shown ps session) := by
  induction ps generalizing session with
  | nil =>
      rw [shown_nil]
      rfl
  | cons p ps ih =>
      have hrefused : (shown [p] session).state.refused = #[] := hnone
      have hrest : Takes (shown [p] session).state.printed.toList ps := by
        rw [toList_printed_shown]
        exact h.2
      rw [printAll, Task.start_bind (start_print_of_takes hnone ⟨h.1, trivial⟩), ih hrefused hrest, shown_shown,
        List.singleton_append]

/-- Otherwise those up to the first that it refuses have. -/
theorem start_printAll_of_not_takes {ps : List Printed} (h : ¬ Takes session.state.printed.toList ps) :
    ∃ f before p after, ps = before ++ p :: after ∧ (printAll ps).start session = (.error f,
      { shown before session with state := { (shown before session).state with refused := #[p] } }) := by
  induction ps generalizing session with
  | nil => exact absurd trivial h
  | cons p ps ih =>
      cases hp : Console.fault? session.state.printed.toList session.state.refused.toList p with
      | some f =>
          refine ⟨f, [], p, ps, rfl, ?_⟩
          rw [printAll, Task.start_bind_error (start_print_of_some hp), shown_nil, hnone]
          rfl
      | none =>
          have hrefused : (shown [p] session).state.refused = #[] := hnone
          have hrest : ¬ Takes (shown [p] session).state.printed.toList ps := by
            intro hrest
            rw [toList_printed_shown] at hrest
            exact h ⟨by rwa [hnone] at hp, hrest⟩
          obtain ⟨f, before, q, after, rfl, hrun⟩ := ih hrefused hrest
          refine ⟨f, p :: before, q, after, rfl, ?_⟩
          rw [printAll, Task.start_bind (start_print_of_none hp), hrun, shown_shown, List.singleton_append]

/-- **A report that the console takes** is printed as far as it can be shown. -/
theorem start_present_of_takes {r : Shown} (h : Takes session.state.printed.toList r.printed) :
    (present r).start session =
      (match r.fault with
        | some f => .error f
        | none => .ok (), shown r.printed session) := by
  rw [present, Task.start_bind (start_printAll_of_takes hnone h)]
  cases r.fault <;> rfl

/-- A report that it does not take ends with its refusal. -/
theorem start_present_of_not_takes {r : Shown} (h : ¬ Takes session.state.printed.toList r.printed) :
    ∃ f before p after, r.printed = before ++ p :: after ∧ (present r).start session = (.error f,
      { shown before session with state := { (shown before session).state with refused := #[p] } }) := by
  obtain ⟨f, before, p, after, hsplit, hrun⟩ := start_printAll_of_not_takes hnone h
  exact ⟨f, before, p, after, hsplit, by rw [present, Task.start_bind_error hrun]⟩

end

/-! ### Reporting -/

section

variable {α : Type} {report : Fault → CommandTask Unit} {task : CommandTask α} {next : α → CommandTask Nat}
  {session session' : Session Float State}

theorem start_reporting_of_ok {a : α} (h : task.start session = (.ok a, session')) :
    (reporting report task next).start session = (next a).start session' := by
  rw [reporting, Task.start_bind (Task.start_attempt task session), h]

/-- A fault that is not foreseen ends the command. -/
theorem start_reporting_of_unforeseen {f : Fault} (h : task.start session = (.error f, session'))
    (hf : f.isForeseen = false) : (reporting report task next).start session = (.error f, session') := by
  rw [reporting, Task.start_bind (Task.start_attempt task session), h]
  simp only [hf]
  rfl

/-- A fault that is foreseen is reported. -/
theorem start_reporting_of_foreseen {f : Fault} (h : task.start session = (.error f, session'))
    (hf : f.isForeseen = true) : (reporting report task next).start session = (do
      report f
      print (faultLine f)
      return 1 : CommandTask Nat).start session' := by
  rw [reporting, Task.start_bind (Task.start_attempt task session), h]
  simp only [hf]
  rfl

end

/-! ### Lines in red -/

section

variable {writes : CodePoint → Bool} (hconsole : Console.Lawful writes)

include hconsole

/-- A line in red around text from elsewhere can be printed if the text can be written. -/
theorem isPrintable_redLine (before : String) (hbefore : Text.IsBare before) {s : Text} (hs : s.IsWritable writes) :
    (Printed.line ("[red]" ++ before ++ Console.escape s ++ "[/red]")).IsPrintable writes := by
  have hsplit : ("[red]" : Text) ++ before ++ Console.escape s ++ "[/red]" =
      "[red]" ++ (before ++ Console.escape s ++ Text.empty) ++ "[/red]" := by
    rw [Text.append_empty, ← Text.append_assoc "[red]"]
  refine ⟨?_, ?_⟩
  · rw [hsplit]
    exact .red (.around hbefore s Text.isBare_empty)
  · simp [Printed.IsWritable, hconsole.isWritable_escape hs, hconsole.isWritable_ofString]

/-- The line that reports a fault can be printed if the words for the fault can be written. -/
theorem isPrintable_faultLine {f : Fault} (hf : f.message.IsWritable writes) : (faultLine f).IsPrintable writes :=
  isPrintable_redLine hconsole "Error: " (by decide) hf

/-- The line that reports a name without vendor or product can be printed if the name can be written. -/
theorem isPrintable_invalidLine {cpe : Text} (hcpe : cpe.IsWritable writes) :
    (invalidLine cpe).IsPrintable writes :=
  isPrintable_redLine hconsole "Error: Not a CPE name with vendor and product: " (by decide) hcpe

end

end CpeMatch.Command
