import Mathlib.Data.List.Induction
import Mathlib.Data.List.SplitBy
import Mathlib.Data.List.TakeWhile
import CpeMatch.Proofs.Text.Order
import CpeMatch.Version.Basic

/-!
**The runs of a version text.**

Only the runs of digits and of letters count for a version, and they are not affected by what separates
them: around a separator a text can be cut in two, and its runs are those of the first part and then those of
the second.  Nothing is joined across the cut and nothing is taken apart.  The blanks at the ends of a text
are separators too, so that a text has its runs whether or not they have been taken off.

Main definitions:

* `CpeMatch.Version.tokenRuns` — the runs that are tokens;
* `CpeMatch.Version.hasLongRun` — whether a run of digits is too long to be computed.

Main results:

* `CpeMatch.Version.tokenRuns_append_separator` — **a text can be cut at a separator**;
* `CpeMatch.Version.tokenRuns_stripPoints` — blanks at the ends make no difference;
* `CpeMatch.Version.scan_append_separator`, `CpeMatch.Version.hasLongRun_append_separator` — what this says of
  the tokens and of the length of runs;
* `CpeMatch.Version.scan_eq_nil_iff` — a text has no token if it has separators only.
-/

set_option autoImplicit false

namespace CpeMatch.Version

/-- Whether a code point only separates. -/
def isSeparator (c : CodePoint) : Bool := classOf c = .separator

/-- The runs that are tokens, that is all but those of separators. -/
def tokenRuns (cs : List CodePoint) : List (List CodePoint) :=
  (runs cs).filter fun run => !run.all isSeparator

/-- Whether a run of digits is too long to be computed. -/
def hasLongRun (cs : List CodePoint) : Bool := (runs cs).any isTooLong

theorem isSeparator_iff (c : CodePoint) : isSeparator c = true ↔ classOf c = .separator :=
  decide_eq_true_iff

@[simp] theorem isSeparator_dot : isSeparator (.char '.') = true := by decide

@[simp] theorem tokenRuns_nil : tokenRuns [] = [] := rfl

/-! ### Runs -/

theorem mem_of_mem_runs {cs run : List CodePoint} (hrun : run ∈ runs cs) {c : CodePoint} (hc : c ∈ run) :
    c ∈ cs := by
  have hflat : (runs cs).flatten = cs := List.flatten_splitBy sameClass cs
  rw [← hflat]
  exact List.mem_flatten_of_mem hrun hc

theorem exists_run_of_mem {cs : List CodePoint} {c : CodePoint} (hc : c ∈ cs) :
    ∃ run ∈ runs cs, c ∈ run := by
  have hflat : (runs cs).flatten = cs := List.flatten_splitBy sameClass cs
  rwa [← hflat, List.mem_flatten] at hc

/-- All code points of a run are of the class of the first. -/
theorem classOf_eq_of_mem_runs {cs rest : List CodePoint} {first : CodePoint}
    (hrun : first :: rest ∈ runs cs) {c : CodePoint} (hc : c ∈ first :: rest) :
    classOf c = classOf first := by
  have hchain : (first :: rest).IsChain fun a b => classOf a = classOf b := by
    refine (List.isChain_of_mem_splitBy hrun).imp ?_
    intro a b h
    exact of_decide_eq_true h
  rcases List.mem_cons.1 hc with rfl | hc
  · rfl
  · have : Trans (fun a b => classOf a = classOf b) (fun a b => classOf a = classOf b)
        (fun a b => classOf a = classOf b) := ⟨Eq.trans⟩
    exact (hchain.rel_cons hc).symm

/-- Where the class changes no run goes on. -/
theorem runs_append_cons {as : List CodePoint} {b : CodePoint} (bs : List CodePoint)
    (h : ∀ a ∈ as.getLast?, classOf a ≠ classOf b) : runs (as ++ b :: bs) = runs as ++ runs (b :: bs) := by
  refine List.splitBy_append_cons bs ?_
  intro a ha
  exact decide_eq_false (h a ha)

/-- Code points of one class, with nothing between them, are one run. -/
theorem runs_of_classOf_eq {cs : List CodePoint} (hne : cs ≠ []) {kind : CharClass}
    (h : ∀ c ∈ cs, classOf c = kind) : runs cs = [cs] := by
  refine List.splitBy_of_isChain hne (List.Pairwise.isChain (List.pairwise_of_forall_mem_list ?_))
  intro a ha b hb
  exact decide_eq_true ((h a ha).trans (h b hb).symm)

/-! ### Cutting a text at a separator -/

theorem tokenRuns_eq_nil_of_separators {cs : List CodePoint} (h : ∀ c ∈ cs, isSeparator c = true) :
    tokenRuns cs = [] := by
  rw [tokenRuns, List.filter_eq_nil_iff]
  intro run hrun
  rw [Bool.not_eq_true, Bool.not_eq_false', List.all_eq_true]
  intro c hc
  exact h c (mem_of_mem_runs hrun hc)

/-- Separators ahead of a text make no difference to its runs. -/
theorem tokenRuns_separators_append {ss : List CodePoint} (hss : ∀ s ∈ ss, isSeparator s = true)
    (cs : List CodePoint) : tokenRuns (ss ++ cs) = tokenRuns cs := by
  -- all separators that stand ahead form one run, wherever the first few of them come from
  have hahead : ∀ ts : List CodePoint, (∀ t ∈ ts, isSeparator t = true) →
      tokenRuns (ts ++ cs.dropWhile isSeparator) = tokenRuns (cs.dropWhile isSeparator) := by
    intro ts hts
    cases hrest : cs.dropWhile isSeparator with
    | nil => rw [List.append_nil, tokenRuns_eq_nil_of_separators hts, tokenRuns_nil]
    | cons c rest =>
        have hc : isSeparator c = false := by
          have hhead := List.head?_dropWhile_not isSeparator cs
          rw [hrest] at hhead
          exact hhead
        have hcut : ∀ t ∈ ts.getLast?, classOf t ≠ classOf c := by
          intro t ht hclass
          have hsep := (isSeparator_iff t).1 (hts t (List.mem_of_mem_getLast? ht))
          rw [hclass, ← isSeparator_iff, hc] at hsep
          cases hsep
        rw [tokenRuns, runs_append_cons rest hcut, List.filter_append, ← tokenRuns, ← tokenRuns,
          tokenRuns_eq_nil_of_separators hts, List.nil_append]
  have htake : ∀ c ∈ cs.takeWhile isSeparator, isSeparator c = true := List.all_eq_true.1 List.all_takeWhile
  have hboth : ∀ c ∈ ss ++ cs.takeWhile isSeparator, isSeparator c = true := by
    intro c hc
    rcases List.mem_append.1 hc with hc | hc
    · exact hss c hc
    · exact htake c hc
  calc tokenRuns (ss ++ cs)
      = tokenRuns ((ss ++ cs.takeWhile isSeparator) ++ cs.dropWhile isSeparator) := by
        rw [List.append_assoc, List.takeWhile_append_dropWhile]
    _ = tokenRuns (cs.takeWhile isSeparator ++ cs.dropWhile isSeparator) := by
        rw [hahead _ hboth, hahead _ htake]
    _ = tokenRuns cs := by rw [List.takeWhile_append_dropWhile]

theorem tokenRuns_cons_separator {s : CodePoint} (hs : isSeparator s = true) (cs : List CodePoint) :
    tokenRuns (s :: cs) = tokenRuns cs := by
  have hss : ∀ t ∈ [s], isSeparator t = true := by
    intro t ht
    rwa [List.mem_singleton.1 ht]
  exact tokenRuns_separators_append hss cs

/-- **A text can be cut at a separator.** -/
theorem tokenRuns_append_separator (as : List CodePoint) {s : CodePoint} (hs : isSeparator s = true)
    (bs : List CodePoint) : tokenRuns (as ++ s :: bs) = tokenRuns as ++ tokenRuns bs := by
  induction as using List.reverseRecOn generalizing s bs with
  | nil => rw [List.nil_append, tokenRuns_nil, List.nil_append, tokenRuns_cons_separator hs]
  | append_singleton as a ih =>
      cases ha : isSeparator a with
      | true =>
          rw [List.append_assoc, List.singleton_append, ih ha, ih ha, tokenRuns_cons_separator hs,
            tokenRuns_nil, List.append_nil]
      | false =>
          have hcut : ∀ c ∈ (as ++ [a]).getLast?, classOf c ≠ classOf s := by
            intro c hc hclass
            rw [List.getLast?_concat, Option.mem_some_iff] at hc
            rw [← hc, (isSeparator_iff s).1 hs, ← isSeparator_iff, ha] at hclass
            cases hclass
          rw [tokenRuns, runs_append_cons bs hcut, List.filter_append, ← tokenRuns, ← tokenRuns,
            tokenRuns_cons_separator hs]

/-- Separators behind a text make no difference to its runs. -/
theorem tokenRuns_append_separators (cs : List CodePoint) {ss : List CodePoint}
    (hss : ∀ s ∈ ss, isSeparator s = true) : tokenRuns (cs ++ ss) = tokenRuns cs := by
  cases ss with
  | nil => rw [List.append_nil]
  | cons s ss =>
      obtain ⟨hs, hss⟩ := List.forall_mem_cons.1 hss
      rw [tokenRuns_append_separator cs hs, tokenRuns_eq_nil_of_separators hss, List.append_nil]

/-! ### Blanks -/

/-- The code points of all runs of blanks only separate. -/
theorem isSeparator_of_mem_blankRanges : ∀ range ∈ Text.blankRanges,
    ∀ n ∈ List.range' range.1 (range.2 + 1 - range.1), isSeparator (.ofNat n) = true := by
  decide +kernel

theorem isSeparator_of_isBlank {c : CodePoint} (h : Text.isBlank c = true) : isSeparator c = true := by
  rw [Text.isBlank, Text.inRanges, List.any_eq_true] at h
  obtain ⟨range, hrange, hc⟩ := h
  simp only [Bool.and_eq_true, decide_eq_true_eq] at hc
  rw [← CodePoint.ofNat_toNat c]
  refine isSeparator_of_mem_blankRanges range hrange c.toNat ?_
  rw [List.mem_range'_1]
  omega

/-- **Blanks at the ends of a text make no difference to its runs.** -/
theorem tokenRuns_stripPoints (cs : List CodePoint) : tokenRuns (Text.stripPoints cs) = tokenRuns cs := by
  obtain ⟨before, after, hcs, hbefore, hafter⟩ := Text.exists_eq_append_stripPoints cs
  conv => rhs; rw [hcs]
  rw [List.append_assoc, tokenRuns_separators_append fun c hc => isSeparator_of_isBlank (hbefore c hc),
    tokenRuns_append_separators _ fun c hc => isSeparator_of_isBlank (hafter c hc)]

/-! ### Tokens and the length of runs -/

theorem tokenOf?_of_separators {run : List CodePoint} (h : run.all isSeparator = true) :
    tokenOf? run = none := by
  cases run with
  | nil => rfl
  | cons c rest =>
      have hc := (isSeparator_iff c).1 (List.all_eq_true.1 h c (List.mem_cons_self ..))
      simp only [tokenOf?, hc]

theorem isTooLong_of_separators {run : List CodePoint} (h : run.all isSeparator = true) :
    isTooLong run = false := by
  cases run with
  | nil => rfl
  | cons c rest =>
      have hc := (isSeparator_iff c).1 (List.all_eq_true.1 h c (List.mem_cons_self ..))
      simp [isTooLong, hc]

theorem scan_eq_filterMap_tokenRuns (cs : List CodePoint) : scan cs = (tokenRuns cs).filterMap tokenOf? := by
  rw [scan, tokenRuns, List.filterMap_filter]
  refine List.filterMap_congr ?_
  intro run _
  cases h : run.all isSeparator with
  | true => rw [tokenOf?_of_separators h]; rfl
  | false => rfl

theorem hasLongRun_eq_any_tokenRuns (cs : List CodePoint) : hasLongRun cs = (tokenRuns cs).any isTooLong := by
  rw [hasLongRun, tokenRuns, List.any_filter]
  congr 1
  funext run
  cases h : run.all isSeparator with
  | true => rw [isTooLong_of_separators h]; rfl
  | false => rfl

/-- The tokens of a text that is cut at a separator are those of its two parts. -/
theorem scan_append_separator (as : List CodePoint) {s : CodePoint} (hs : isSeparator s = true)
    (bs : List CodePoint) : scan (as ++ s :: bs) = scan as ++ scan bs := by
  simp only [scan_eq_filterMap_tokenRuns, tokenRuns_append_separator as hs, List.filterMap_append]

theorem hasLongRun_append_separator (as : List CodePoint) {s : CodePoint} (hs : isSeparator s = true)
    (bs : List CodePoint) : hasLongRun (as ++ s :: bs) = (hasLongRun as || hasLongRun bs) := by
  simp only [hasLongRun_eq_any_tokenRuns, tokenRuns_append_separator as hs, List.any_append]

theorem scan_stripPoints (cs : List CodePoint) : scan (Text.stripPoints cs) = scan cs := by
  rw [scan_eq_filterMap_tokenRuns, tokenRuns_stripPoints, scan_eq_filterMap_tokenRuns]

theorem hasLongRun_stripPoints (cs : List CodePoint) :
    hasLongRun (Text.stripPoints cs) = hasLongRun cs := by
  rw [hasLongRun_eq_any_tokenRuns, tokenRuns_stripPoints, hasLongRun_eq_any_tokenRuns]

theorem hasLongRun_of_separators {cs : List CodePoint} (h : ∀ c ∈ cs, isSeparator c = true) :
    hasLongRun cs = false := by
  rw [hasLongRun_eq_any_tokenRuns, tokenRuns_eq_nil_of_separators h]
  rfl

/-- Digits without anything between them are one run. -/
theorem hasLongRun_of_digits {cs : List CodePoint} (hdigits : ∀ c ∈ cs, classOf c = .digit)
    (hlong : digitLimit < cs.length) : hasLongRun cs = true := by
  have hne : cs ≠ [] := List.ne_nil_of_length_pos (Nat.zero_lt_of_lt hlong)
  rw [hasLongRun, runs_of_classOf_eq hne hdigits, List.any_cons, List.any_nil, Bool.or_false]
  cases cs with
  | nil => exact absurd rfl hne
  | cons c rest =>
      have hc := hdigits c (List.mem_cons_self ..)
      rw [isTooLong, List.head?_cons, Option.any_some, hc, decide_eq_true hlong]
      rfl

/-- **A text has no token if it has separators only.** -/
theorem scan_eq_nil_iff (cs : List CodePoint) : scan cs = [] ↔ ∀ c ∈ cs, isSeparator c = true := by
  constructor
  · intro hscan c hc
    obtain ⟨run, hrun, hc⟩ := exists_run_of_mem hc
    have hnone := List.filterMap_eq_nil_iff.1 hscan run hrun
    cases run with
    | nil => cases hc
    | cons first rest =>
        rw [isSeparator_iff, classOf_eq_of_mem_runs hrun hc]
        cases hclass : classOf first <;> simp [tokenOf?, hclass] at hnone ⊢
  · intro h
    rw [scan_eq_filterMap_tokenRuns, tokenRuns_eq_nil_of_separators h]
    rfl

end CpeMatch.Version
