import CpeMatch.Proofs.Version.Lexicographic
import CpeMatch.Proofs.Version.Runs

/-!
**Versions with an update behind them.**

An update is put behind its version with a dot between them, and what comes out is read as one text.  The
dot separates, so that the tokens are those of the version and then those of the update: of two updates of a
version the greater one makes the greater version, and none makes it smaller.

That the two are read as one text also means that they are judged as one.  A text without digits is no
version, and neither is one with a run of digits that is too long to be computed.  So an update with digits
makes a version of a word that is none by itself, and an update with such a run unmakes one; in every other
case the version alone decides.

Main definitions:

* `CpeMatch.Version.UpdateDecides` — the situation in which the update decides whether there is a version.

Main results:

* `CpeMatch.Version.tokens_parse`, `CpeMatch.Version.tokens_ofParts` — the tokens that are read;
* `CpeMatch.Version.parse_eq_unspecified_iff` — **which texts write a version**;
* `CpeMatch.Version.ofParts_agrees_iff` — **when the version alone decides whether there is one**;
* `CpeMatch.Version.ofParts_extends` — **an update goes behind its version in the order too**.
-/

set_option autoImplicit false

namespace CpeMatch.Version

/-! ### Which texts write a version -/

theorem isDigit_iff (c : CodePoint) : Text.isDigit c = true ↔ classOf c = .digit := by
  rw [classOf]
  cases Text.isDigit c with
  | true => simp
  | false => cases Text.isLetter c <;> simp

theorem isDigit_of_isSeparator {c : CodePoint} (h : isSeparator c = true) : Text.isDigit c = false := by
  rw [← Bool.not_eq_true, isDigit_iff, (isSeparator_iff c).1 h]
  decide

theorem any_isDigit_of_separators {cs : List CodePoint} (h : ∀ c ∈ cs, isSeparator c = true) :
    cs.any Text.isDigit = false := by
  rw [List.any_eq_false]
  intro c hc
  rw [isDigit_of_isSeparator (h c hc)]
  decide

theorem any_isDigit_stripPoints (cs : List CodePoint) :
    (Text.stripPoints cs).any Text.isDigit = cs.any Text.isDigit := by
  obtain ⟨before, after, hcs, hbefore, hafter⟩ := Text.exists_eq_append_stripPoints cs
  conv => rhs; rw [hcs]
  rw [List.any_append, List.any_append,
    any_isDigit_of_separators fun c hc => isSeparator_of_isBlank (hbefore c hc),
    any_isDigit_of_separators fun c hc => isSeparator_of_isBlank (hafter c hc), Bool.false_or,
    Bool.or_false]

theorem usableTokens_eq (cs : List CodePoint) :
    usableTokens cs = if cs.any Text.isDigit && !hasLongRun cs then scan cs else [] := rfl

theorem usableTokens_stripPoints (cs : List CodePoint) :
    usableTokens (Text.stripPoints cs) = usableTokens cs := by
  rw [usableTokens_eq, any_isDigit_stripPoints, hasLongRun_stripPoints, scan_stripPoints, usableTokens_eq]

/-- A text has tokens to be used if it has a digit and no run of digits is too long. -/
theorem usableTokens_eq_nil_iff (cs : List CodePoint) :
    usableTokens cs = [] ↔ cs.any Text.isDigit = false ∨ hasLongRun cs = true := by
  have hscan : cs.any Text.isDigit = true → scan cs ≠ [] := by
    intro hdigit hnil
    rw [any_isDigit_of_separators ((scan_eq_nil_iff cs).1 hnil)] at hdigit
    cases hdigit
  rw [usableTokens_eq]
  cases hdigit : cs.any Text.isDigit with
  | false => simp
  | true => cases hasLongRun cs <;> simp [hscan hdigit]

/-- A text that has no value has separators only. -/
theorem isSeparator_of_hasValue_eq_false {s : Text} (h : hasValue s = false) :
    ∀ c ∈ s.points, isSeparator c = true := by
  simp only [hasValue, Bool.and_eq_false_iff, decide_eq_false_iff_not, not_not] at h
  rcases h with (rfl | rfl) | rfl <;> decide

/-- The tokens of the version that a text writes are those that can be used. -/
theorem tokens_parse (s : Text) : (parse s).tokens = usableTokens s.points := by
  rw [← usableTokens_stripPoints, parse, Text.points_strip]
  split
  · split
    · next h => rw [h]; rfl
    · rfl
  · next h =>
      have hseparators := isSeparator_of_hasValue_eq_false (eq_false_of_ne_true h)
      rw [← Text.points_strip, (usableTokens_eq_nil_iff _).2 (Or.inl (any_isDigit_of_separators hseparators))]
      rfl

theorem parse_eq_unspecified_iff_tokens (s : Text) : parse s = unspecified ↔ (parse s).tokens = [] := by
  rcases parse_eq_unspecified_or s with h | h
  · rw [h]
    exact iff_of_true rfl rfl
  · refine iff_of_false ?_ h
    intro hs
    rw [hs] at h
    exact h rfl

/-- **A text writes a version if it has a digit and no run of digits is too long.** -/
theorem parse_eq_unspecified_iff (s : Text) :
    parse s = unspecified ↔ s.points.any Text.isDigit = false ∨ hasLongRun s.points = true := by
  rw [parse_eq_unspecified_iff_tokens, tokens_parse, usableTokens_eq_nil_iff]

theorem parse_ne_unspecified_iff (s : Text) :
    parse s ≠ unspecified ↔ s.points.any Text.isDigit = true ∧ hasLongRun s.points = false := by
  rw [Ne, parse_eq_unspecified_iff, not_or, Bool.not_eq_false, Bool.not_eq_true]

theorem tokens_parse_of_specified {s : Text} (h : parse s ≠ unspecified) :
    (parse s).tokens = scan s.points := by
  obtain ⟨hdigit, hshort⟩ := (parse_ne_unspecified_iff s).1 h
  rw [tokens_parse, usableTokens_eq, hdigit, hshort]
  rfl

/-! ### The version with its update -/

/-- The tokens of a text with another one behind a dot. -/
theorem usableTokens_append_dot (as bs : List CodePoint) :
    usableTokens (as ++ .char '.' :: bs) =
      if (as.any Text.isDigit || bs.any Text.isDigit) && !(hasLongRun as || hasLongRun bs) then
        scan as ++ scan bs else [] := by
  have hdot : Text.isDigit (.char '.') = false := isDigit_of_isSeparator isSeparator_dot
  rw [usableTokens_eq, List.any_append, List.any_cons, hdot, Bool.false_or,
    hasLongRun_append_separator as isSeparator_dot, scan_append_separator as isSeparator_dot]

/-- **Version and update are read as one text**, if the version has a value. -/
theorem tokens_ofParts (v u : Text) :
    (ofParts (some v) (some u)).tokens =
      if hasValue (Text.strip v) then usableTokens (v.points ++ .char '.' :: u.points) else [] := by
  rw [ofParts]
  cases hv : hasValue (Text.strip v) with
  | false => rfl
  | true =>
      simp only [if_true]
      cases hu : hasValue (Text.strip u) with
      | true =>
          have hpoints : (Text.strip v ++ "." ++ Text.strip u).points =
              Text.stripPoints v.points ++ .char '.' :: Text.stripPoints u.points := by
            rw [Text.points_append, Text.points_append, List.append_assoc]
            rfl
          rw [if_pos rfl, tokens_parse, hpoints, usableTokens_append_dot, usableTokens_append_dot,
            any_isDigit_stripPoints, any_isDigit_stripPoints, hasLongRun_stripPoints,
            hasLongRun_stripPoints, scan_stripPoints, scan_stripPoints]
      | false =>
          -- an update without a value has neither digits nor tokens
          have hseparators := isSeparator_of_hasValue_eq_false hu
          have hscan := (scan_eq_nil_iff _).2 hseparators
          have hdigit := any_isDigit_of_separators hseparators
          have hlong := hasLongRun_of_separators hseparators
          rw [Text.points_strip, scan_stripPoints] at hscan
          rw [Text.points_strip, any_isDigit_stripPoints] at hdigit
          rw [Text.points_strip, hasLongRun_stripPoints] at hlong
          rw [if_neg Bool.false_ne_true, tokens_parse, usableTokens_append_dot, hscan, hdigit, hlong,
            Bool.or_false, Bool.or_false, List.append_nil, usableTokens_eq]

theorem hasValue_of_parse_ne {v : Text} (h : parse v ≠ unspecified) : hasValue (Text.strip v) = true := by
  cases hv : hasValue (Text.strip v) with
  | true => rfl
  | false =>
      rw [parse, hv] at h
      exact absurd rfl h

theorem ofParts_eq_unspecified_iff_tokens (v u : Text) :
    ofParts (some v) (some u) = unspecified ↔ (ofParts (some v) (some u)).tokens = [] := by
  rw [ofParts]
  split
  · split
    · exact parse_eq_unspecified_iff_tokens _
    · exact parse_eq_unspecified_iff_tokens _
  · exact iff_of_true rfl rfl

/-- Version and update write no version if the version has no value, or neither has a digit, or one of them
has a run of digits that is too long. -/
theorem ofParts_eq_unspecified_iff (v u : Text) :
    ofParts (some v) (some u) = unspecified ↔
      hasValue (Text.strip v) = false ∨
      v.points.any Text.isDigit = false ∧ u.points.any Text.isDigit = false ∨
      hasLongRun v.points = true ∨ hasLongRun u.points = true := by
  have hdot : Text.isDigit (.char '.') = false := isDigit_of_isSeparator isSeparator_dot
  rw [ofParts_eq_unspecified_iff_tokens, tokens_ofParts]
  cases hasValue (Text.strip v) with
  | false => simp
  | true =>
      rw [if_pos rfl, usableTokens_eq_nil_iff, List.any_append, List.any_cons, hdot, Bool.false_or,
        hasLongRun_append_separator _ isSeparator_dot, Bool.or_eq_false_iff, Bool.or_eq_true]
      simp

/-! ### Whether there is a version -/

/-- A run of digits that is too long is one of digits. -/
theorem any_isDigit_of_hasLongRun {cs : List CodePoint} (h : hasLongRun cs = true) :
    cs.any Text.isDigit = true := by
  rw [hasLongRun, List.any_eq_true] at h
  obtain ⟨run, hrun, hlong⟩ := h
  cases run with
  | nil => cases hlong
  | cons first rest =>
      simp only [isTooLong, List.head?_cons, Option.any_some, Bool.and_eq_true, decide_eq_true_eq] at hlong
      rw [List.any_eq_true]
      exact ⟨first, mem_of_mem_runs hrun (List.mem_cons_self ..), (isDigit_iff first).2 hlong.1⟩

/-- The situation in which the update decides whether there is a version: it lends its digits to a text that
has a value and no digit of its own, or it has a run of digits that is too long to be computed and spoils the
version with it. -/
inductive UpdateDecides (v u : Text) : Prop where
  | lends (hvalue : hasValue (Text.strip v) = true) (hnone : v.points.any Text.isDigit = false)
      (hu : parse u ≠ unspecified)
  | spoils (hv : parse v ≠ unspecified) (hlong : hasLongRun u.points = true)

theorem updateDecides_iff (v u : Text) :
    UpdateDecides v u ↔
      hasValue (Text.strip v) = true ∧ v.points.any Text.isDigit = false ∧
        u.points.any Text.isDigit = true ∧ hasLongRun u.points = false ∨
      v.points.any Text.isDigit = true ∧ hasLongRun v.points = false ∧ hasLongRun u.points = true := by
  constructor
  · intro h
    cases h with
    | lends hvalue hnone hu => exact Or.inl ⟨hvalue, hnone, (parse_ne_unspecified_iff u).1 hu⟩
    | spoils hv hlong =>
        obtain ⟨hdigit, hshort⟩ := (parse_ne_unspecified_iff v).1 hv
        exact Or.inr ⟨hdigit, hshort, hlong⟩
  · rintro (⟨hvalue, hnone, hu⟩ | ⟨hdigit, hshort, hlong⟩)
    · exact .lends hvalue hnone ((parse_ne_unspecified_iff u).2 hu)
    · exact .spoils ((parse_ne_unspecified_iff v).2 ⟨hdigit, hshort⟩) hlong

/-- **The version alone decides whether there is one, unless the update lends it digits or spoils it.**  That
a version with an update behind it is the unspecified one if and only if the version by itself is holds for
all texts but those, and fails for each of those. -/
theorem ofParts_agrees_iff (v u : Text) :
    (ofParts (some v) (some u) = unspecified ↔ parse v = unspecified) ↔ ¬ UpdateDecides v u := by
  rw [ofParts_eq_unspecified_iff, parse_eq_unspecified_iff, updateDecides_iff]
  cases hdigit : v.points.any Text.isDigit with
  | true =>
      have hvalue : hasValue (Text.strip v) = true := by
        cases hv : hasValue (Text.strip v) with
        | true => rfl
        | false =>
            have hnone := any_isDigit_of_separators (isSeparator_of_hasValue_eq_false hv)
            rw [Text.points_strip, any_isDigit_stripPoints, hdigit] at hnone
            cases hnone
      cases hasLongRun v.points <;> cases hasLongRun u.points <;> simp [hvalue]
  | false =>
      have hshort : hasLongRun v.points = false := by
        cases hlong : hasLongRun v.points with
        | false => rfl
        | true =>
            rw [any_isDigit_of_hasLongRun hlong] at hdigit
            cases hdigit
      cases hasValue (Text.strip v) <;> cases u.points.any Text.isDigit <;>
        cases hasLongRun u.points <;> simp [hshort]

/-- The number 1 behind abc makes a version of it, and 4301 digits behind 1 unmake one. -/
theorem ofParts_disagrees :
    ¬ (ofParts (some "abc") (some "1") = unspecified ↔ parse "abc" = unspecified) ∧
    ¬ (ofParts (some "1") (some ⟨List.replicate 4301 (.char '1')⟩) = unspecified ↔
      parse "1" = unspecified) := by
  constructor
  · intro h
    have hread := congrArg tokens (h.2 rfl)
    exact absurd hread (by decide)
  · intro h
    have hlong : hasLongRun (List.replicate 4301 (.char '1')) = true := by
      refine hasLongRun_of_digits ?_ ?_
      · intro c hc
        rw [List.eq_of_mem_replicate hc]
        rfl
      · rw [List.length_replicate]
        decide
    have hspoilt := (ofParts_eq_unspecified_iff "1" ⟨List.replicate 4301 (.char '1')⟩).2
      (Or.inr (Or.inr (Or.inr hlong)))
    have hread := congrArg tokens (h.1 hspoilt)
    exact absurd hread (by decide)

/-! ### The order of versions with updates -/

/-- The tokens of a version with an update behind it are those of the version and then those of the update. -/
theorem tokens_ofParts_eq_append {v u : Text} (hv : parse v ≠ unspecified)
    (hu : hasLongRun u.points = false) :
    (ofParts (some v) (some u)).tokens = (parse v).tokens ++ scan u.points := by
  obtain ⟨hdigit, hshort⟩ := (parse_ne_unspecified_iff v).1 hv
  rw [tokens_ofParts, hasValue_of_parse_ne hv, if_pos rfl, usableTokens_append_dot, hdigit, hshort, hu,
    tokens_parse_of_specified hv]
  rfl

/-- **An update goes behind its version in the order too.**  Let a text write a version and let no run of
digits in the update be too long.  The tokens of the two together are those of the version and then those of
the update, whether or not it has digits.  So both have the same first token, the version comes at or before
itself with the update, and they are equal if and only if the update has separators only.  Two updates of a
version compare as their tokens do. -/
theorem ofParts_extends {v u : Text} (hv : parse v ≠ unspecified) (hu : hasLongRun u.points = false) :
    let whole := ofParts (some v) (some u)
    whole.tokens = (parse v).tokens ++ scan u.points ∧ whole.major = (parse v).major ∧ parse v ≤ whole ∧
      ((whole == parse v) = true ↔ ∀ c ∈ u.points, isSeparator c = true) ∧
      ∀ u' : Text, hasLongRun u'.points = false →
        whole.compare (ofParts (some v) (some u')) =
          List.compareLex Ord.compare (scan u.points) (scan u'.points) ∧
        (whole < ofParts (some v) (some u') ↔
          List.Lex Token.Below (scan u.points) (scan u'.points)) := by
  intro whole
  have htokens : whole.tokens = (parse v).tokens ++ scan u.points := tokens_ofParts_eq_append hv hu
  have hne : (parse v).tokens ≠ [] := mt (parse_eq_unspecified_iff_tokens v).2 hv
  have hequal : (whole == parse v) = true ↔ scan u.points = [] := by
    rw [beq_iff_tokens_eq, htokens, List.append_right_eq_self]
  refine ⟨htokens, ?_, ?_, hequal.trans (scan_eq_nil_iff _), ?_⟩
  · rw [major, major, htokens, List.head?_append_of_ne_nil _ hne]
  · rw [le_iff_lt_or_beq, lt_iff_lex, beq_iff_tokens_eq]
    by_cases hsame : (parse v).tokens = whole.tokens
    · exact Or.inr hsame
    · exact Or.inl (lex_of_begins ⟨scan u.points, htokens.symm⟩ hsame)
  · intro u' hu'
    have hcompare : whole.compare (ofParts (some v) (some u')) =
        List.compareLex Ord.compare (scan u.points) (scan u'.points) := by
      rw [compare, htokens, tokens_ofParts_eq_append hv hu', compareLex_append_left]
    refine ⟨hcompare, ?_⟩
    rw [lt_iff_compare, hcompare]
    exact compareLex_eq_lt_iff Token.compare_eq_lt_iff _ _

/-- Behind 2.0 the update SP_1 comes before sp2, and an update of a hyphen and a blank adds nothing. -/
theorem ofParts_extends_servicePack :
    let release := parse " 2.0"
    let first := ofParts (some " 2.0") (some "SP_1")
    let second := ofParts (some " 2.0") (some "sp2")
    let same := ofParts (some " 2.0") (some "- -")
    release ≠ unspecified ∧ hasLongRun ("SP_1" : Text).points = false ∧
      first.tokens = [.number 2, .number 0, .word "sp", .number 1] ∧ release ≤ first ∧ first < second ∧
      (same == release) = true := by
  intro release first second same
  have hv : release ≠ unspecified := fun h => absurd (congrArg tokens h) (by decide)
  have hu : hasLongRun ("SP_1" : Text).points = false := rfl
  have hu' : hasLongRun ("- -" : Text).points = false := rfl
  obtain ⟨htokens, _, hle, _, horder⟩ := ofParts_extends hv hu
  obtain ⟨_, _, _, hequal, _⟩ := ofParts_extends hv hu'
  have hless : first < second :=
    (horder "sp2" rfl).2.2 (.cons (.rel (.numbers (by decide))))
  exact ⟨hv, hu, htokens, hle, hless, hequal.2 (by decide)⟩

end CpeMatch.Version
