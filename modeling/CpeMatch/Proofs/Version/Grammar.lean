import CpeMatch.Proofs.Version.Update

/-!
**What a version text says, place by place.**

The tokens of a version are the maximal stretches of digits and the maximal stretches of letters of its
text, in the order in which they stand there.  A stretch is known by what stands ahead of it and behind it,
so that two stretches of the same code points at different places are two.  Every digit and every letter
lies in exactly one of them, and nothing else lies in any.

Main definitions:

* `CpeMatch.Version.Stretch` — a stretch of a text, at its place;
* `CpeMatch.Version.Stretch.IsMaximal` — a stretch that goes on on neither side;
* `CpeMatch.Version.Stretch.Writes` — the token that a maximal stretch writes;
* `CpeMatch.Version.stretchesOf`, `CpeMatch.Version.tokenStretches` — the stretches that the runs of a text
  are, and those of them that write tokens.

Main results:

* `CpeMatch.Version.runs_whole` — **a maximal stretch is a run**;
* `CpeMatch.Version.isMaximal_of_mem` — and each run is one;
* `CpeMatch.Version.parse_reads` — **what is read of a text, and of which texts nothing is**.
-/

set_option autoImplicit false

namespace CpeMatch.Version

/-- A stretch of a text, with what stands ahead of it and behind it. -/
@[ext] structure Stretch where
  ahead : List CodePoint
  run : List CodePoint
  behind : List CodePoint

namespace Stretch

/-- The text that the stretch lies in. -/
def whole (t : Stretch) : List CodePoint := t.ahead ++ t.run ++ t.behind

/-- The code points of the stretch are of the given class, and those right ahead of it and right behind it
are not. -/
structure IsMaximal (t : Stretch) (kind : CharClass) : Prop where
  run_ne_nil : t.run ≠ []
  classOf_run : ∀ c ∈ t.run, classOf c = kind
  classOf_ahead : ∀ c ∈ t.ahead.getLast?, classOf c ≠ kind
  classOf_behind : ∀ c ∈ t.behind.head?, classOf c ≠ kind

/-- The stretch ends where another one begins, or ahead of that. -/
def Precedes (s t : Stretch) : Prop := s.ahead ++ s.run <+: t.ahead

/-- The code point behind `cs` lies in the stretch. -/
def Covers (t : Stretch) (cs : List CodePoint) : Prop :=
  ∃ left c right, t.run = left ++ c :: right ∧ t.ahead ++ left = cs

/-- The token that a maximal stretch writes: digits their number, letters the word that they are when
letter case does not count. -/
inductive Writes (t : Stretch) : Token → Prop where
  | number (h : t.IsMaximal .digit) : Writes t (.number (Text.natOfDigits t.run))
  | word (h : t.IsMaximal .letter) : Writes t (.word (Text.caseFold ⟨t.run⟩))

/-- The token of the stretch, if there is one. -/
def token? (t : Stretch) : Option Token := tokenOf? t.run

end Stretch

/-- The runs of a text as stretches of it, where `ahead` stands ahead of the first. -/
def stretchesFrom (ahead : List CodePoint) : List (List CodePoint) → List Stretch
  | [] => []
  | run :: rest => ⟨ahead, run, rest.flatten⟩ :: stretchesFrom (ahead ++ run) rest

/-- The runs of a text as stretches of it. -/
def stretchesOf (cs : List CodePoint) : List Stretch := stretchesFrom [] (runs cs)

/-! ### Runs at their places -/

theorem mem_stretchesFrom_iff {ahead : List CodePoint} {rs : List (List CodePoint)} {t : Stretch} :
    t ∈ stretchesFrom ahead rs ↔ ∃ before after, rs = before ++ t.run :: after ∧
      t.ahead = ahead ++ before.flatten ∧ t.behind = after.flatten := by
  induction rs generalizing ahead with
  | nil => simp [stretchesFrom]
  | cons run rest ih =>
      rw [stretchesFrom, List.mem_cons, ih]
      constructor
      · rintro (rfl | ⟨before, after, rfl, hahead, hbehind⟩)
        · exact ⟨[], rest, rfl, by simp, rfl⟩
        · exact ⟨run :: before, after, rfl, by simp [hahead], hbehind⟩
      · rintro ⟨before, after, hrs, hahead, hbehind⟩
        cases before with
        | nil =>
            obtain ⟨rfl, rfl⟩ := List.cons.inj hrs
            rw [List.flatten_nil, List.append_nil] at hahead
            exact Or.inl (Stretch.ext hahead rfl hbehind)
        | cons run' before =>
            obtain ⟨rfl, rfl⟩ := List.cons.inj hrs
            refine Or.inr ⟨before, after, rfl, ?_, hbehind⟩
            rw [hahead, List.flatten_cons, List.append_assoc]

/-- The stretches stand one behind the other. -/
theorem pairwise_stretchesFrom (ahead : List CodePoint) (rs : List (List CodePoint)) :
    (stretchesFrom ahead rs).Pairwise Stretch.Precedes := by
  induction rs generalizing ahead with
  | nil => exact List.Pairwise.nil
  | cons run rest ih =>
      refine List.pairwise_cons.2 ⟨?_, ih _⟩
      intro t ht
      obtain ⟨before, after, _, hahead, _⟩ := mem_stretchesFrom_iff.1 ht
      exact ⟨before.flatten, hahead.symm⟩

/-- Every place lies in a stretch. -/
theorem exists_covers (ahead : List CodePoint) {left right : List CodePoint} {rs : List (List CodePoint)}
    {c : CodePoint} (h : rs.flatten = left ++ c :: right) :
    ∃ t ∈ stretchesFrom ahead rs, t.Covers (ahead ++ left) := by
  induction rs generalizing ahead left with
  | nil => simp at h
  | cons run rest ih =>
      have hlater : ∀ left', left = run ++ left' → rest.flatten = left' ++ c :: right →
          ∃ t ∈ stretchesFrom ahead (run :: rest), t.Covers (ahead ++ left) := by
        rintro left' rfl hrest
        obtain ⟨t, ht, hcovers⟩ := ih (ahead ++ run) hrest
        rw [List.append_assoc] at hcovers
        exact ⟨t, List.mem_cons_of_mem _ ht, hcovers⟩
      rw [List.flatten_cons] at h
      rcases List.append_eq_append_iff.1 h with ⟨left', hleft, hrest⟩ | ⟨within, hrun, hrest⟩
      · exact hlater left' hleft hrest
      · cases within with
        | nil => exact hlater [] (by simpa using hrun.symm) hrest.symm
        | cons c' within =>
            obtain ⟨rfl, -⟩ := List.cons.inj hrest
            exact ⟨_, List.mem_cons_self .., left, c, within, hrun, rfl⟩

theorem whole_of_mem {cs : List CodePoint} {t : Stretch} (ht : t ∈ stretchesOf cs) : t.whole = cs := by
  obtain ⟨before, after, hruns, hahead, hbehind⟩ := mem_stretchesFrom_iff.1 ht
  have hflat : (runs cs).flatten = cs := List.flatten_splitBy sameClass cs
  rw [hruns, List.flatten_append, List.flatten_cons] at hflat
  rw [Stretch.whole, hahead, hbehind, List.nil_append, List.append_assoc, hflat]

theorem exists_mem_stretchesOf_iff {cs run : List CodePoint} :
    (∃ t ∈ stretchesOf cs, t.run = run) ↔ run ∈ runs cs := by
  rw [List.mem_iff_append]
  constructor
  · rintro ⟨t, ht, rfl⟩
    obtain ⟨before, after, hruns, _⟩ := mem_stretchesFrom_iff.1 ht
    exact ⟨before, after, hruns⟩
  · rintro ⟨before, after, hruns⟩
    exact ⟨⟨[] ++ before.flatten, run, after.flatten⟩,
      mem_stretchesFrom_iff.2 ⟨before, after, hruns, rfl, rfl⟩, rfl⟩

/-! ### Runs are maximal stretches -/

/-- **A maximal stretch is a run**, and the runs of the text are those of its three parts. -/
theorem runs_whole {t : Stretch} {kind : CharClass} (h : t.IsMaximal kind) :
    runs t.whole = runs t.ahead ++ t.run :: runs t.behind := by
  have hrun : runs t.run = [t.run] := by
    refine List.splitBy_of_isChain h.run_ne_nil ?_
    refine (List.pairwise_of_forall_mem_list ?_).isChain
    intro a ha b hb
    exact decide_eq_true ((h.classOf_run a ha).trans (h.classOf_run b hb).symm)
  have hbehind : runs (t.run ++ t.behind) = t.run :: runs t.behind := by
    cases hb : t.behind with
    | nil => rw [List.append_nil, hrun, runs_nil]
    | cons b behind =>
        rw [runs_append_cons behind, hrun, List.singleton_append]
        intro a ha hclass
        rw [h.classOf_run a (List.mem_of_mem_getLast? ha)] at hclass
        exact h.classOf_behind b (by rw [hb]; rfl) hclass.symm
  obtain ⟨first, rest, hfirst⟩ := List.exists_cons_of_ne_nil h.run_ne_nil
  rw [← hbehind, Stretch.whole, List.append_assoc, hfirst, List.cons_append]
  refine runs_append_cons _ ?_
  intro a ha hclass
  rw [h.classOf_run first (by rw [hfirst]; exact List.mem_cons_self ..)] at hclass
  exact h.classOf_ahead a ha hclass

theorem mem_stretchesOf_of_isMaximal {t : Stretch} {kind : CharClass} (h : t.IsMaximal kind) :
    t ∈ stretchesOf t.whole := by
  have hflat : ∀ cs, (runs cs).flatten = cs := List.flatten_splitBy sameClass
  exact mem_stretchesFrom_iff.2
    ⟨runs t.ahead, runs t.behind, runs_whole h, by rw [hflat, List.nil_append], by rw [hflat]⟩

/-- Each run is a maximal stretch, of the class of its first code point. -/
theorem isMaximal_of_mem {cs : List CodePoint} {t : Stretch} (ht : t ∈ stretchesOf cs) :
    ∃ first rest, t.run = first :: rest ∧ t.IsMaximal (classOf first) := by
  have hmem := exists_mem_stretchesOf_iff.1 ⟨t, ht, rfl⟩
  obtain ⟨before, after, hruns, hahead, hbehind⟩ := mem_stretchesFrom_iff.1 ht
  have hne : ∀ run ∈ runs cs, run ≠ [] := fun run hrun => List.ne_nil_of_mem_splitBy hrun
  obtain ⟨first, rest, hrun⟩ := List.exists_cons_of_ne_nil (hne t.run hmem)
  have hclass : ∀ c ∈ t.run, classOf c = classOf first := by
    rw [hrun] at hmem ⊢
    exact fun c hc => classOf_eq_of_mem_runs hmem hc
  -- the class changes from each run to the next
  have hchain := List.isChain_getLast_head_splitBy sameClass cs
  rw [← runs, hruns, List.isChain_append] at hchain
  obtain ⟨_, hafter, hbefore⟩ := hchain
  refine ⟨first, rest, hrun, hne t.run hmem, hclass, ?_, ?_⟩
  · intro c hc heq
    rw [hahead, List.nil_append] at hc
    rcases List.eq_nil_or_concat' before with rfl | ⟨others, last, rfl⟩
    · cases hc
    · obtain ⟨hlast, _, hchange⟩ := hbefore last (by simp) t.run rfl
      rw [List.flatten_append, List.flatten_singleton, List.getLast?_append_of_ne_nil _ hlast,
        List.getLast?_eq_getLast_of_ne_nil hlast] at hc
      refine of_decide_eq_false hchange ?_
      rw [Option.some.inj hc, heq, hclass _ (List.head_mem _)]
  · intro c hc heq
    rw [hbehind] at hc
    cases after with
    | nil => cases hc
    | cons next others =>
        obtain ⟨hlast, hnext, hchange⟩ := (List.isChain_cons_cons.1 hafter).1
        rw [List.flatten_cons, List.head?_append_of_ne_nil _ hnext, List.head?_eq_some_head hnext] at hc
        refine of_decide_eq_false hchange ?_
        rw [Option.some.inj hc, heq, hclass _ (List.getLast_mem _)]

/-! ### Tokens -/

theorem writes_of_token? {cs : List CodePoint} {t : Stretch} (ht : t ∈ stretchesOf cs) {token : Token}
    (htoken : t.token? = some token) : t.Writes token := by
  obtain ⟨first, rest, hrun, hmax⟩ := isMaximal_of_mem ht
  rw [Stretch.token?, hrun, tokenOf?] at htoken
  cases hclass : classOf first with
  | digit =>
      rw [hclass] at hmax
      simp only [hclass, Option.some.injEq] at htoken
      rw [← htoken, ← hrun]
      exact .number hmax
  | letter =>
      rw [hclass] at hmax
      simp only [hclass, Option.some.injEq] at htoken
      rw [← htoken, ← hrun]
      exact .word hmax
  | separator => simp [hclass] at htoken

/-- The stretches that write tokens. -/
def tokenStretches (cs : List CodePoint) : List Stretch :=
  (stretchesOf cs).filter (·.token?.isSome)

theorem mem_tokenStretches_iff {cs : List CodePoint} {t : Stretch} :
    t ∈ tokenStretches cs ↔ t.whole = cs ∧ (t.IsMaximal .digit ∨ t.IsMaximal .letter) := by
  rw [tokenStretches, List.mem_filter]
  constructor
  · rintro ⟨ht, htoken⟩
    obtain ⟨token, htoken⟩ := Option.isSome_iff_exists.1 htoken
    refine ⟨whole_of_mem ht, ?_⟩
    cases writes_of_token? ht htoken with
    | number h => exact Or.inl h
    | word h => exact Or.inr h
  · rintro ⟨rfl, h⟩
    have hkind : ∃ kind, kind ≠ .separator ∧ t.IsMaximal kind := by
      rcases h with h | h
      · exact ⟨_, by decide, h⟩
      · exact ⟨_, by decide, h⟩
    obtain ⟨kind, hkind, h⟩ := hkind
    refine ⟨mem_stretchesOf_of_isMaximal h, ?_⟩
    obtain ⟨first, rest, hrun⟩ := List.exists_cons_of_ne_nil h.run_ne_nil
    have hfirst := h.classOf_run first (by rw [hrun]; exact List.mem_cons_self ..)
    rw [Stretch.token?, hrun, tokenOf?]
    cases kind with
    | digit => simp [hfirst]
    | letter => simp [hfirst]
    | separator => exact absurd rfl hkind

theorem pairwise_tokenStretches (cs : List CodePoint) : (tokenStretches cs).Pairwise Stretch.Precedes :=
  (pairwise_stretchesFrom [] (runs cs)).filter _

theorem map_run_stretchesFrom (ahead : List CodePoint) (rs : List (List CodePoint)) :
    (stretchesFrom ahead rs).map (·.run) = rs := by
  induction rs generalizing ahead with
  | nil => rfl
  | cons run rest ih => rw [stretchesFrom, List.map_cons, ih]

/-- The tokens are those that the stretches write, in their order. -/
theorem forall₂_writes (cs : List CodePoint) :
    List.Forall₂ Stretch.Writes (tokenStretches cs) (scan cs) := by
  have hscan : scan cs = (stretchesOf cs).filterMap Stretch.token? := by
    rw [scan, ← map_run_stretchesFrom [] (runs cs), List.filterMap_map]
    rfl
  have hwrites : ∀ t ∈ stretchesOf cs, ∀ token, t.token? = some token → t.Writes token :=
    fun t ht token => writes_of_token? ht
  rw [hscan, tokenStretches]
  generalize stretchesOf cs = ts at hwrites
  induction ts with
  | nil => exact .nil
  | cons t ts ih =>
      obtain ⟨hfirst, hrest⟩ := List.forall_mem_cons.1 hwrites
      cases ht : t.token? with
      | none =>
          rw [List.filter_cons_of_neg (by simp [ht]), List.filterMap_cons_none ht]
          exact ih hrest
      | some token =>
          rw [List.filter_cons_of_pos (by simp [ht]), List.filterMap_cons_some ht]
          exact .cons (hfirst token ht) (ih hrest)

theorem isSeparator_eq_false_iff (c : CodePoint) :
    isSeparator c = false ↔ Text.isDigit c = true ∨ Text.isLetter c = true := by
  rw [← Bool.not_eq_true, isSeparator_iff, classOf]
  cases Text.isDigit c <;> cases Text.isLetter c <;> simp

/-- **A place lies in one of the stretches if a digit or a letter stands there.** -/
theorem exists_covers_iff {cs left right : List CodePoint} {c : CodePoint} (h : cs = left ++ c :: right) :
    (∃ t ∈ tokenStretches cs, t.Covers left) ↔ isSeparator c = false := by
  -- whichever stretch the place lies in, the code point there is `c`
  have hclass : ∀ t ∈ stretchesOf cs, t.Covers left → c ∈ t.run := by
    rintro t ht ⟨left', c', right', hrun, rfl⟩
    have hwhole := whole_of_mem ht
    rw [h, Stretch.whole, hrun] at hwhole
    simp only [List.append_assoc, List.append_cancel_left_eq, List.cons_append, List.cons.injEq] at hwhole
    rw [hrun, ← hwhole.1]
    simp
  constructor
  · rintro ⟨t, ht, hcovers⟩
    have hc := hclass t (List.mem_filter.1 ht).1 hcovers
    rw [← Bool.not_eq_true, isSeparator_iff]
    rcases (mem_tokenStretches_iff.1 ht).2 with hmax | hmax
    · rw [hmax.classOf_run c hc]
      decide
    · rw [hmax.classOf_run c hc]
      decide
  · intro hc
    have hflat : (runs cs).flatten = cs := List.flatten_splitBy sameClass cs
    obtain ⟨t, ht, hcovers⟩ := exists_covers [] (hflat.trans h)
    obtain ⟨first, rest, hrun, hmax⟩ := isMaximal_of_mem ht
    have hfirst := hmax.classOf_run c (hclass t ht hcovers)
    refine ⟨t, List.mem_filter.2 ⟨ht, ?_⟩, hcovers⟩
    rw [← Bool.not_eq_true, isSeparator_iff, hfirst] at hc
    rw [Stretch.token?, hrun, tokenOf?]
    cases hclass : classOf first with
    | digit => rfl
    | letter => rfl
    | separator => exact absurd hclass hc

/-! ### The length of stretches -/

theorem hasLongRun_iff_exists (cs : List CodePoint) :
    hasLongRun cs = true ↔ ∃ t : Stretch, t.whole = cs ∧ t.IsMaximal .digit ∧ digitLimit < t.run.length := by
  rw [hasLongRun, List.any_eq_true]
  constructor
  · rintro ⟨run, hrun, hlong⟩
    obtain ⟨t, ht, rfl⟩ := exists_mem_stretchesOf_iff.2 hrun
    obtain ⟨first, rest, hfirst, hmax⟩ := isMaximal_of_mem ht
    rw [isTooLong, Bool.and_eq_true, decide_eq_true_iff, hfirst, List.head?_cons, Option.any_some,
      decide_eq_true_iff, ← hfirst] at hlong
    rw [hlong.1] at hmax
    exact ⟨t, whole_of_mem ht, hmax, hlong.2⟩
  · rintro ⟨t, rfl, hmax, hlong⟩
    refine ⟨t.run, exists_mem_stretchesOf_iff.1 ⟨t, mem_stretchesOf_of_isMaximal hmax, rfl⟩, ?_⟩
    obtain ⟨first, rest, hfirst⟩ := List.exists_cons_of_ne_nil hmax.run_ne_nil
    have hclass := hmax.classOf_run first (by rw [hfirst]; exact List.mem_cons_self ..)
    rw [isTooLong, Bool.and_eq_true, decide_eq_true_iff, hfirst, List.head?_cons, Option.any_some,
      decide_eq_true_iff, ← hfirst]
    exact ⟨hclass, hlong⟩

/-! ### What is read of a text -/

/-- A text of which something is read is kept without the blanks at its ends. -/
theorem text_parse_of_specified {s : Text} (h : parse s ≠ unspecified) : (parse s).text = Text.strip s := by
  rw [parse] at h ⊢
  split
  · next hvalue =>
      rw [if_pos hvalue] at h
      split
      · next hnone =>
          rw [hnone] at h
          exact absurd rfl h
      · rfl
  · next hvalue =>
      rw [if_neg hvalue] at h
      exact absurd rfl h

/-- What is read of a text is read of it without the blanks at its ends too. -/
theorem parse_strip (s : Text) : parse (Text.strip s) = parse s := by
  rw [parse, Text.strip_strip, ← parse]

/-- **What is read of a text, and of which texts nothing is.**  Nothing is read of a text that has no value,
has no digit, or has a maximal stretch of more than 4300 digits.  Of every other text the tokens are read
that its maximal stretches of digits and of letters write, each stretch once and in the order in which they
stand there; each place of the text lies in one of them if a digit or a letter stands there, and in none
otherwise.  The text is kept without the blanks at its ends, and the same is read of it again. -/
theorem parse_reads (s : Text) :
    let cs := (Text.strip s).points
    (parse s = unspecified ↔
      Text.strip s = "" ∨ Text.strip s = "-" ∨ Text.strip s = "*" ∨
      (∀ c ∈ cs, Text.isDigit c = false) ∨
      ∃ t : Stretch, t.whole = cs ∧ t.IsMaximal .digit ∧ 4300 < t.run.length) ∧
    (parse s ≠ unspecified →
      (∃ stretches : List Stretch,
        (∀ t, t ∈ stretches ↔ t.whole = cs ∧ (t.IsMaximal .digit ∨ t.IsMaximal .letter)) ∧
        stretches.Pairwise Stretch.Precedes ∧
        List.Forall₂ Stretch.Writes stretches (parse s).tokens ∧
        ∀ left c right, cs = left ++ c :: right →
          ((∃ t ∈ stretches, t.Covers left) ↔ Text.isDigit c = true ∨ Text.isLetter c = true)) ∧
      (parse s).text = Text.strip s ∧ parse (parse s).text = parse s) := by
  intro cs
  constructor
  · rw [parse_eq_unspecified_iff, ← any_isDigit_stripPoints, ← hasLongRun_stripPoints, ← Text.points_strip,
      hasLongRun_iff_exists, List.any_eq_false]
    simp only [Bool.not_eq_true]
    constructor
    · rintro (hnone | hlong)
      · exact Or.inr (Or.inr (Or.inr (Or.inl hnone)))
      · exact Or.inr (Or.inr (Or.inr (Or.inr hlong)))
    · rintro (h | h | h | hnone | hlong)
      -- a text without a value has no digit
      · exact Or.inl (by rw [h]; decide)
      · exact Or.inl (by rw [h]; decide)
      · exact Or.inl (by rw [h]; decide)
      · exact Or.inl hnone
      · exact Or.inr hlong
  · intro h
    refine ⟨⟨tokenStretches cs, fun t => mem_tokenStretches_iff, pairwise_tokenStretches cs, ?_, ?_⟩,
      text_parse_of_specified h, ?_⟩
    · rw [tokens_parse_of_specified h, ← scan_stripPoints]
      exact forall₂_writes cs
    · intro left c right hcs
      rw [exists_covers_iff hcs, isSeparator_eq_false_iff]
    · rw [text_parse_of_specified h, parse_strip]

/-- A release candidate with blanks around it, whose four tokens stand without a separator where digits and
letters meet. -/
theorem parse_reads_releaseCandidate :
    parse " 1.0RC2 " ≠ unspecified ∧ (parse " 1.0RC2 ").text = "1.0RC2" ∧
      (parse " 1.0RC2 ").tokens = [.number 1, .number 0, .word "rc", .number 2] ∧
      ∃ stretches : List Stretch, List.Forall₂ Stretch.Writes stretches (parse " 1.0RC2 ").tokens ∧
        ⟨("1.0" : Text).points, ("RC" : Text).points, ("2" : Text).points⟩ ∈ stretches := by
  have hne : parse " 1.0RC2 " ≠ unspecified := by
    intro h
    exact absurd (congrArg tokens h) (by decide)
  obtain ⟨⟨stretches, hmem, _, hwrites, _⟩, htext, _⟩ := (parse_reads " 1.0RC2 ").2 hne
  have hletters : Stretch.IsMaximal ⟨("1.0" : Text).points, ("RC" : Text).points, ("2" : Text).points⟩
      .letter := by
    refine ⟨by decide, by decide, by decide, by decide⟩
  exact ⟨hne, htext.trans (by decide), by decide, stretches, hwrites,
    (hmem _).2 ⟨by decide, Or.inr hletters⟩⟩

end CpeMatch.Version
