import CpeMatch.Proofs.Cpe.LetterCase
import CpeMatch.Proofs.Text.Decimal
import CpeMatch.Report.Console

/-!
**The tokens of a version in one text.**

A version is shown as its tokens with a joint between any two of them: a dot, or a dot between blanks.  Of a text
in ASCII these are the runs of the text itself, digits without the zeros ahead of them and letters in lower case.
Each of them is one run again, of the same token and no longer than before, and a joint keeps any two of them
apart.  So what is shown is read as the same version, and of two texts the same is shown if and only if they are
the same version.  Whatever one text has besides these runs makes no difference, and whatever is in them does.

Main definitions:

* `CpeMatch.Version.IsJoint`, `CpeMatch.Version.normalForm` — what may stand between tokens, and the tokens with it
  between them;
* `CpeMatch.Version.plainRun` — a run as it is shown.

Main results:

* `CpeMatch.Version.usableTokens_eq_tokenRuns` — a version depends on the runs of its text alone;
* `CpeMatch.Version.tokenRuns_intercalate` — the runs of texts with joints between them;
* `CpeMatch.Version.tokenRuns_normalForm` — **the runs of what is shown**;
* `CpeMatch.Version.normalForm_faithful` — **what is shown of a version is a normal form of its text**.
-/

set_option autoImplicit false

namespace CpeMatch.Version

open Text (significantDigits smallPoints)

/-! ### A version depends on runs -/

/-- A digit of a text is one of its runs. -/
theorem any_isDigit_eq_tokenRuns (cs : List CodePoint) :
    cs.any Text.isDigit = (tokenRuns cs).any fun run => run.any Text.isDigit := by
  rw [Bool.eq_iff_iff, List.any_eq_true, List.any_eq_true]
  constructor
  · rintro ⟨c, hc, hdigit⟩
    obtain ⟨run, hrun, hmem⟩ := exists_run_of_mem hc
    have hany : run.any Text.isDigit = true := List.any_eq_true.2 ⟨c, hmem, hdigit⟩
    refine ⟨run, List.mem_filter.2 ⟨hrun, ?_⟩, hany⟩
    cases hall : run.all isSeparator with
    | false => rfl
    | true =>
        rw [any_isDigit_of_separators (List.all_eq_true.1 hall)] at hany
        cases hany
  · rintro ⟨run, hrun, hany⟩
    obtain ⟨c, hc, hdigit⟩ := List.any_eq_true.1 hany
    exact ⟨c, mem_of_mem_runs (List.mem_filter.1 hrun).1 hc, hdigit⟩

/-- **The tokens of a version depend on the runs of its text alone.** -/
theorem usableTokens_eq_tokenRuns (cs : List CodePoint) :
    usableTokens cs =
      if ((tokenRuns cs).any fun run => run.any Text.isDigit) && !(tokenRuns cs).any isTooLong then
        (tokenRuns cs).filterMap tokenOf?
      else [] := by
  rw [usableTokens_eq, any_isDigit_eq_tokenRuns, hasLongRun_eq_any_tokenRuns, scan_eq_filterMap_tokenRuns]

/-! ### Runs with joints between them -/

/-- What may stand between the tokens of a version: separators, and at least one. -/
structure IsJoint (joint : Text) : Prop where
  points_ne_nil : joint.points ≠ []
  isSeparator : ∀ c ∈ joint.points, isSeparator c = true

theorem isJoint_dot : IsJoint "." := ⟨by decide, by decide⟩

theorem isJoint_dot_between_blanks : IsJoint " . " := ⟨by decide, by decide⟩

theorem tokenRuns_append_joint {joint : Text} (hjoint : IsJoint joint) (as bs : List CodePoint) :
    tokenRuns (as ++ joint.points ++ bs) = tokenRuns as ++ tokenRuns bs := by
  obtain ⟨s, ss, hss⟩ := List.exists_cons_of_ne_nil hjoint.points_ne_nil
  have hseparators := hjoint.isSeparator
  rw [hss] at hseparators
  obtain ⟨hs, hss'⟩ := List.forall_mem_cons.1 hseparators
  rw [hss, List.append_assoc, List.cons_append, tokenRuns_append_separator as hs, tokenRuns_separators_append hss']

/-- The runs of texts with joints between them are those of one text after another. -/
theorem tokenRuns_intercalate {joint : Text} (hjoint : IsJoint joint) (parts : List (List CodePoint)) :
    tokenRuns (joint.points.intercalate parts) = parts.flatMap tokenRuns := by
  induction parts with
  | nil => rfl
  | cons part parts ih =>
      cases parts with
      | nil => rw [List.intercalate_singleton, List.flatMap_singleton]
      | cons next parts =>
          rw [List.intercalate_cons_cons, tokenRuns_append_joint hjoint, ih]
          rfl

/-! ### Runs as they are shown -/

/-- At least one code point, and all of the given class. -/
structure IsRun (kind : CharClass) (run : List CodePoint) : Prop where
  ne_nil : run ≠ []
  classOf_eq : ∀ c ∈ run, classOf c = kind

/-- A run as it is shown: digits without the zeros ahead of them, and letters in lower case. -/
def plainRun (run : List CodePoint) : List CodePoint :=
  if run.all Text.isDigit then significantDigits run else smallPoints run

/-- A number is shown with its decimal digits. -/
theorem text_number (n : Nat) : (Token.number n).text = ⟨(Nat.toDigits 10 n).map CodePoint.char⟩ := by
  rw [Token.text, Text.ofString, Text.ofChars, Nat.toString_eq_repr, Nat.toList_repr]

/-- A run that is a token is one of digits or one of letters. -/
theorem exists_isRun_of_mem {cs run : List CodePoint} (h : run ∈ tokenRuns cs) :
    ∃ kind, kind ≠ .separator ∧ IsRun kind run := by
  obtain ⟨hrun, htoken⟩ := List.mem_filter.1 h
  cases run with
  | nil => cases htoken
  | cons first rest =>
      have hclass : ∀ c ∈ first :: rest, classOf c = classOf first := fun c hc => classOf_eq_of_mem_runs hrun hc
      refine ⟨classOf first, ?_, List.cons_ne_nil first rest, hclass⟩
      intro hfirst
      have hall : (first :: rest).all isSeparator = true :=
        List.all_eq_true.2 fun c hc => (isSeparator_iff c).2 ((hclass c hc).trans hfirst)
      rw [hall] at htoken
      cases htoken

namespace IsRun

variable {kind : CharClass} {run : List CodePoint}

/-- A run by itself is its only run. -/
theorem tokenRuns_eq (h : IsRun kind run) (hkind : kind ≠ .separator) : tokenRuns run = [run] := by
  have hnot : run.all isSeparator = false := by
    obtain ⟨c, hc⟩ := List.exists_mem_of_ne_nil run h.ne_nil
    rw [List.all_eq_false]
    refine ⟨c, hc, ?_⟩
    rwa [isSeparator_iff, h.classOf_eq c hc]
  rw [tokenRuns, runs_of_classOf_eq h.ne_nil h.classOf_eq, List.filter_cons_of_pos (by rw [hnot]; rfl),
    List.filter_nil]

theorem tokenOf?_of_digits (h : IsRun .digit run) : tokenOf? run = some (.number (Text.natOfDigits run)) := by
  obtain ⟨c, rest, rfl⟩ := List.exists_cons_of_ne_nil h.ne_nil
  simp only [tokenOf?, h.classOf_eq c (List.mem_cons_self ..)]

theorem tokenOf?_of_letters (h : IsRun .letter run) : tokenOf? run = some (.word ⟨Text.foldPoints run⟩) := by
  obtain ⟨c, rest, rfl⟩ := List.exists_cons_of_ne_nil h.ne_nil
  simp only [tokenOf?, h.classOf_eq c (List.mem_cons_self ..)]

theorem plainRun_of_digits (h : IsRun .digit run) : plainRun run = significantDigits run :=
  if_pos (List.all_eq_true.2 fun c hc => (isDigit_iff c).2 (h.classOf_eq c hc))

theorem plainRun_of_letters (h : IsRun .letter run) : plainRun run = smallPoints run := by
  refine if_neg fun hall => ?_
  obtain ⟨c, hc⟩ := List.exists_mem_of_ne_nil run h.ne_nil
  have hdigit := (isDigit_iff c).1 (List.all_eq_true.1 hall c hc)
  rw [h.classOf_eq c hc] at hdigit
  cases hdigit

/-- What is shown of a run is a run of the same class. -/
theorem plain (h : IsRun kind run) (hkind : kind ≠ .separator) : IsRun kind (plainRun run) := by
  cases kind with
  | digit =>
      rw [h.plainRun_of_digits]
      exact ⟨Text.significantDigits_ne_nil h.ne_nil,
        fun c hc => h.classOf_eq c ((Text.significantDigits_sublist run).subset hc)⟩
  | letter =>
      rw [h.plainRun_of_letters]
      refine ⟨mt List.map_eq_nil_iff.1 h.ne_nil, ?_⟩
      intro d hd
      obtain ⟨c, hc, rfl⟩ := List.mem_map.1 hd
      rw [classOf_small, h.classOf_eq c hc]
  | separator => exact absurd rfl hkind

theorem any_isDigit_eq (h : IsRun kind run) : run.any Text.isDigit = decide (kind = .digit) := by
  rw [Bool.eq_iff_iff, List.any_eq_true, decide_eq_true_iff]
  constructor
  · rintro ⟨c, hc, hdigit⟩
    rw [← h.classOf_eq c hc, (isDigit_iff c).1 hdigit]
  · intro hkind
    obtain ⟨c, hc⟩ := List.exists_mem_of_ne_nil run h.ne_nil
    exact ⟨c, hc, (isDigit_iff c).2 ((h.classOf_eq c hc).trans hkind)⟩

theorem isTooLong_eq (h : IsRun kind run) :
    isTooLong run = (decide (kind = .digit) && decide (digitLimit < run.length)) := by
  obtain ⟨c, rest, rfl⟩ := List.exists_cons_of_ne_nil h.ne_nil
  rw [isTooLong, List.head?_cons, Option.any_some, h.classOf_eq c (List.mem_cons_self ..)]

/-- What is shown of a run is the same token. -/
theorem tokenOf?_plainRun (h : IsRun kind run) (hkind : kind ≠ .separator) :
    tokenOf? (plainRun run) = tokenOf? run := by
  have hplain := h.plain hkind
  cases kind with
  | digit =>
      rw [hplain.tokenOf?_of_digits, h.plainRun_of_digits, Text.natOfDigits_significantDigits, h.tokenOf?_of_digits]
  | letter =>
      rw [hplain.tokenOf?_of_letters, h.plainRun_of_letters, Text.foldPoints_smallPoints, h.tokenOf?_of_letters]
  | separator => exact absurd rfl hkind

/-- The token of a run in ASCII is shown as the run without leading zeros and in lower case. -/
theorem text_token (h : IsRun kind run) (hkind : kind ≠ .separator) (hascii : ∀ c ∈ run, c.isAscii = true) :
    (tokenOf? run).map Token.text = some ⟨plainRun run⟩ := by
  cases kind with
  | digit =>
      have hdigits : ∀ c ∈ run, c.isAscii = true ∧ Text.isDigit c = true :=
        fun c hc => ⟨hascii c hc, (isDigit_iff c).2 (h.classOf_eq c hc)⟩
      rw [h.tokenOf?_of_digits, h.plainRun_of_digits, Option.map_some, text_number,
        Text.toDigits_natOfDigits h.ne_nil hdigits]
  | letter =>
      rw [h.tokenOf?_of_letters, h.plainRun_of_letters, Text.foldPoints_of_ascii hascii]
      rfl
  | separator => exact absurd rfl hkind

end IsRun

theorem length_plainRun_le (run : List CodePoint) : (plainRun run).length ≤ run.length := by
  rw [plainRun]
  split
  · exact (Text.significantDigits_sublist run).length_le
  · rw [smallPoints, List.length_map]

/-! ### What is shown of a version -/

/-- The tokens of a version with a joint between any two of them. -/
def normalForm (joint : Text) (v : Version) : Text := Text.intercalate joint (v.tokens.map (·.text))

theorem tokensText_eq_normalForm {s : Text} (hs : parse s ≠ unspecified) :
    Report.tokensText (parse s) = normalForm " . " (parse s) := by
  have htokens : (parse s).tokens ≠ [] := mt (parse_eq_unspecified_iff_tokens s).2 hs
  rw [Report.tokensText, isUnspecified, List.isEmpty_eq_false_iff.2 htokens]
  rfl

section

variable {s t joint : Text} (hascii : ∀ c ∈ s.points, c.isAscii = true) (hs : parse s ≠ unspecified)

include hascii hs

/-- The tokens of a text in ASCII are shown as its runs. -/
theorem map_text_tokens : (parse s).tokens.map (·.text) = (tokenRuns s.points).map fun run => ⟨plainRun run⟩ := by
  rw [tokens_parse_of_specified hs, scan_eq_filterMap_tokenRuns, List.map_filterMap, ← List.filterMap_eq_map]
  refine List.filterMap_congr ?_
  intro run hrun
  obtain ⟨kind, hkind, hisRun⟩ := exists_isRun_of_mem hrun
  exact hisRun.text_token hkind fun c hc => hascii c (mem_of_mem_runs (List.mem_filter.1 hrun).1 hc)

theorem points_normalForm :
    (normalForm joint (parse s)).points = joint.points.intercalate ((tokenRuns s.points).map plainRun) := by
  rw [normalForm, map_text_tokens hascii hs, Text.intercalate, List.map_map]
  rfl

/-- **The runs of what is shown** are those of the text as they are shown. -/
theorem tokenRuns_normalForm (hjoint : IsJoint joint) :
    tokenRuns (normalForm joint (parse s)).points = (tokenRuns s.points).map plainRun := by
  rw [points_normalForm hascii hs, tokenRuns_intercalate hjoint, List.flatMap_map, List.map_eq_flatMap]
  refine List.flatMap_congr ?_
  intro run hrun
  obtain ⟨kind, hkind, hisRun⟩ := exists_isRun_of_mem hrun
  exact (hisRun.plain hkind).tokenRuns_eq hkind

/-- **What is shown of a version is read as the same tokens.** -/
theorem tokens_parse_normalForm (hjoint : IsJoint joint) :
    (parse (normalForm joint (parse s))).tokens = (parse s).tokens := by
  obtain ⟨hdigit, hshort⟩ := (parse_ne_unspecified_iff s).1 hs
  rw [any_isDigit_eq_tokenRuns] at hdigit
  rw [hasLongRun_eq_any_tokenRuns] at hshort
  have hdigit' : ((tokenRuns s.points).map plainRun).any (fun run => run.any Text.isDigit) = true := by
    obtain ⟨run, hrun, hany⟩ := List.any_eq_true.1 hdigit
    obtain ⟨kind, hkind, hisRun⟩ := exists_isRun_of_mem hrun
    refine List.any_eq_true.2 ⟨plainRun run, List.mem_map_of_mem hrun, ?_⟩
    rwa [(hisRun.plain hkind).any_isDigit_eq, ← hisRun.any_isDigit_eq]
  have hshort' : ((tokenRuns s.points).map plainRun).any isTooLong = false := by
    rw [List.any_eq_false] at hshort ⊢
    intro shown hshown
    obtain ⟨run, hrun, rfl⟩ := List.mem_map.1 hshown
    obtain ⟨kind, hkind, hisRun⟩ := exists_isRun_of_mem hrun
    have hrun_short := hshort run hrun
    have hlength := length_plainRun_le run
    rw [hisRun.isTooLong_eq] at hrun_short
    rw [(hisRun.plain hkind).isTooLong_eq]
    simp only [Bool.and_eq_true, decide_eq_true_iff, not_and, not_lt] at hrun_short ⊢
    exact fun hdigits => hlength.trans (hrun_short hdigits)
  rw [tokens_parse, usableTokens_eq_tokenRuns, tokenRuns_normalForm hascii hs hjoint, hdigit', hshort',
    tokens_parse_of_specified hs, scan_eq_filterMap_tokenRuns, List.filterMap_map]
  refine List.filterMap_congr ?_
  intro run hrun
  obtain ⟨kind, hkind, hisRun⟩ := exists_isRun_of_mem hrun
  exact hisRun.tokenOf?_plainRun hkind

/-- **What is shown of a version is a normal form of its text.**  Let a text in ASCII write a version.  Its tokens
with any joint between them, such as the one of a comparison, are the runs of the text with that joint between
them, digits without leading zeros and letters in lower case.  They are read as the same version.  Another text
in ASCII is the same version if and only if the same is shown of it, which is to say if and only if its runs are
the same but for leading zeros and the case of letters. -/
theorem normalForm_faithful :
    Report.tokensText (parse s) = normalForm " . " (parse s) ∧ IsJoint " . " ∧ IsJoint "." ∧
    ∀ joint, IsJoint joint →
      (normalForm joint (parse s)).points = joint.points.intercalate ((tokenRuns s.points).map plainRun) ∧
      parse (normalForm joint (parse s)) ≠ unspecified ∧
      (parse (normalForm joint (parse s))).tokens = (parse s).tokens ∧
      (parse (normalForm joint (parse s)) == parse s) = true ∧
      ∀ t : Text, (∀ c ∈ t.points, c.isAscii = true) → parse t ≠ unspecified →
        ((parse s == parse t) = true ↔ normalForm joint (parse s) = normalForm joint (parse t)) ∧
        ((parse s == parse t) = true ↔
          (tokenRuns s.points).map plainRun = (tokenRuns t.points).map plainRun) := by
  refine ⟨tokensText_eq_normalForm hs, isJoint_dot_between_blanks, isJoint_dot, ?_⟩
  intro joint hjoint
  have htokens := tokens_parse_normalForm hascii hs hjoint
  have hne : parse (normalForm joint (parse s)) ≠ unspecified := by
    rw [Ne, parse_eq_unspecified_iff_tokens, htokens, ← parse_eq_unspecified_iff_tokens]
    exact hs
  refine ⟨points_normalForm hascii hs, hne, htokens, (beq_iff_tokens_eq _ _).2 htokens, ?_⟩
  intro t hascii' ht
  have hforms : (parse s == parse t) = true ↔ normalForm joint (parse s) = normalForm joint (parse t) := by
    rw [beq_iff_tokens_eq]
    constructor
    · intro h
      rw [normalForm, normalForm, h]
    · intro h
      rw [← htokens, ← tokens_parse_normalForm hascii' ht hjoint, h]
  refine ⟨hforms, hforms.trans ?_⟩
  constructor
  · intro h
    rw [← tokenRuns_normalForm hascii hs hjoint, ← tokenRuns_normalForm hascii' ht hjoint, h]
  · intro h
    rw [Text.mk.injEq, points_normalForm hascii hs, points_normalForm hascii' ht, h]

end

/-- Leading zeros, capitals and other separators, and tokens that stand without a separator. -/
theorem normalForm_faithful_releaseCandidate :
    let s : Text := "01.0RC2"
    let t : Text := " 1-00..rc_2"
    (∀ c ∈ s.points, c.isAscii = true) ∧ parse s ≠ unspecified ∧
      (∀ c ∈ t.points, c.isAscii = true) ∧ parse t ≠ unspecified ∧ IsJoint " . " ∧
      (Report.tokensText (parse s)).points = ("1 . 0 . rc . 2" : Text).points ∧
      (parse s == parse t) = true ∧ Report.tokensText (parse s) = Report.tokensText (parse t) := by
  intro s t
  have hascii : ∀ c ∈ s.points, c.isAscii = true := by decide
  have hascii' : ∀ c ∈ t.points, c.isAscii = true := by decide
  have hs : parse s ≠ unspecified := fun h => absurd (congrArg tokens h) (by decide)
  have ht : parse t ≠ unspecified := fun h => absurd (congrArg tokens h) (by decide)
  obtain ⟨htext, hjoint, -, hforms⟩ := normalForm_faithful hascii hs
  obtain ⟨hpoints, -, -, -, hequal⟩ := hforms " . " hjoint
  obtain ⟨hsame, hruns⟩ := hequal t hascii' ht
  have heq : (parse s == parse t) = true := hruns.2 (by decide)
  refine ⟨hascii, hs, hascii', ht, hjoint, ?_, heq, ?_⟩
  · rw [htext, hpoints]
    decide
  · rw [htext, tokensText_eq_normalForm ht]
    exact hsame.1 heq

end CpeMatch.Version
