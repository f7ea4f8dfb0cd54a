import CpeMatch.Proofs.Version.Order

/-!
**Versions are ordered by their tokens alone.**

Of two versions the smaller one is the one that the other continues, or else the one with the smaller token
at the first place where they differ: numbers go by their values, words by the numbers of their code points,
and a word is below every number.  This order and the equality of tokens decide every other comparison, and
the text that a version was read from has no part in any of them.

Main definitions:

* `CpeMatch.Version.Token.Below` — a token below another;
* `CpeMatch.Version.Interchangeable` — versions that may stand for one another.

Main results:

* `CpeMatch.Version.compareLex_eq_lt_iff` — comparing lists item by item is the lexicographic order;
* `CpeMatch.Version.lt_iff_lex` — **the order of versions is the lexicographic order of their tokens**;
* `CpeMatch.Version.interchangeable_of_beq` — equal versions may stand for one another;
* `CpeMatch.Version.comparisons_by_tokens` — **versions are totally ordered by their tokens**.
-/

set_option autoImplicit false

namespace CpeMatch.Version

/-! ### Lists compared item by item -/

section

variable {α : Type} {cmp : α → α → Ordering} {r : α → α → Prop}

/-- Comparing lists item by item is the lexicographic order of what comparing items is. -/
theorem compareLex_eq_lt_iff [Std.LawfulEqCmp cmp] (hr : ∀ a b, cmp a b = .lt ↔ r a b) (xs ys : List α) :
    List.compareLex cmp xs ys = .lt ↔ List.Lex r xs ys := by
  induction xs generalizing ys with
  | nil =>
      cases ys with
      | nil =>
          rw [List.compareLex_nil_nil]
          exact ⟨nofun, nofun⟩
      | cons y ys =>
          rw [List.compareLex_nil_cons]
          exact ⟨fun _ => .nil, fun _ => rfl⟩
  | cons x xs ih =>
      cases ys with
      | nil =>
          rw [List.compareLex_cons_nil]
          exact ⟨nofun, nofun⟩
      | cons y ys =>
          rw [List.compareLex_cons_cons, Ordering.then_eq_lt, ih, hr]
          constructor
          · rintro (hxy | ⟨heq, hrest⟩)
            · exact .rel hxy
            · obtain rfl := Std.LawfulEqCmp.eq_of_compare heq
              exact .cons hrest
          · intro h
            cases h with
            | rel hxy => exact Or.inl hxy
            | cons hrest => exact Or.inr ⟨Std.ReflCmp.compare_self, hrest⟩

/-- What two lists begin with alike has no say in how they compare. -/
theorem compareLex_append_left [Std.ReflCmp cmp] (shared xs ys : List α) :
    List.compareLex cmp (shared ++ xs) (shared ++ ys) = List.compareLex cmp xs ys := by
  induction shared with
  | nil => rfl
  | cons a shared ih =>
      have hself : cmp a a = .eq := Std.ReflCmp.compare_self
      rw [List.cons_append, List.cons_append, List.compareLex_cons_cons, hself, ih]
      rfl

/-- A proper beginning of a list comes before it. -/
theorem lex_of_begins {xs ys : List α} (hbegins : xs <+: ys) (hne : xs ≠ ys) : List.Lex r xs ys := by
  obtain ⟨zs, rfl⟩ := hbegins
  induction xs with
  | nil =>
      cases zs with
      | nil => exact absurd rfl hne
      | cons z zs => exact .nil
  | cons x xs ih => exact .cons (ih fun h => hne (congrArg (x :: ·) h))

/-- Lists are compared by the first items in which they differ. -/
theorem lex_append_cons_iff (hr : ∀ a, ¬ r a a) (shared : List α) {a b : α} (hne : a ≠ b)
    (xs ys : List α) : List.Lex r (shared ++ a :: xs) (shared ++ b :: ys) ↔ r a b := by
  induction shared with
  | nil =>
      constructor
      · intro h
        cases h with
        | rel hab => exact hab
        | cons _ => exact absurd rfl hne
      · exact .rel
  | cons c shared ih =>
      rw [← ih]
      constructor
      · intro h
        cases h with
        | rel hcc => exact absurd hcc (hr c)
        | cons hrest => exact hrest
      · exact .cons

end

/-! ### Tokens -/

/-- A token is below another: numbers go by their values, words by the numbers of their code points, and
every word is below every number. -/
inductive Token.Below : Token → Token → Prop where
  | numbers {m n : Nat} (h : m < n) : Below (.number m) (.number n)
  | words {v w : Text} (h : List.Lex (· < ·) v.codes w.codes) : Below (.word v) (.word w)
  | wordNumber (w : Text) (n : Nat) : Below (.word w) (.number n)

/-- The order of tokens is the one that they are compared by. -/
theorem Token.compare_eq_lt_iff (s t : Token) : Ord.compare s t = .lt ↔ s.Below t := by
  cases s with
  | number m =>
      cases t with
      | number n =>
          rw [compare_number_number, Nat.compare_eq_lt]
          exact ⟨.numbers, fun | .numbers h => h⟩
      | word w =>
          rw [compare_number_word]
          exact ⟨nofun, nofun⟩
  | word v =>
      cases t with
      | number n =>
          rw [compare_word_number]
          exact ⟨fun _ => .wordNumber v n, fun _ => rfl⟩
      | word w =>
          have hcodes : List.compareLex Ord.compare v.codes w.codes = .lt ↔
              List.Lex (· < ·) v.codes w.codes :=
            compareLex_eq_lt_iff (fun _ _ => Nat.compare_eq_lt) _ _
          rw [compare_word_word, Text.compare_eq_compare_codes, List.compare_eq_compareLex, hcodes]
          exact ⟨.words, fun | .words h => h⟩

theorem Token.not_below_self (t : Token) : ¬ t.Below t := by
  have hself : Ord.compare t t = .eq := Std.ReflCmp.compare_self
  rw [← compare_eq_lt_iff, hself]
  exact nofun

/-! ### The order of versions -/

variable {u v w : Version}

/-- **The order of versions is the lexicographic order of their tokens.** -/
theorem lt_iff_lex (v w : Version) : v < w ↔ List.Lex Token.Below v.tokens w.tokens := by
  rw [lt_iff_compare, compare]
  exact compareLex_eq_lt_iff Token.compare_eq_lt_iff v.tokens w.tokens

theorem lt_trans (huv : u < v) (hvw : v < w) : u < w := by
  rw [lt_iff_compare, compare] at huv hvw ⊢
  exact Std.TransCmp.lt_trans huv hvw

theorem compare_eq_eq_iff (v w : Version) : v.compare w = .eq ↔ (v == w) = true := by
  rw [beq_iff_tokens_eq, compare]
  exact Std.LawfulEqCmp.compare_eq_iff_eq

/-- What comparing two versions gives is told from their order and their equality. -/
theorem compare_eq_ite (v w : Version) :
    v.compare w = if v == w then .eq else if v < w then .lt else .gt := by
  cases h : v.compare w with
  | lt =>
      have hne : ¬ (v == w) = true := by
        rw [← compare_eq_eq_iff, h]
        exact nofun
      rw [if_neg hne, if_pos ((lt_iff_compare v w).2 h)]
  | eq => rw [if_pos ((compare_eq_eq_iff v w).1 h)]
  | gt =>
      have hne : ¬ (v == w) = true := by
        rw [← compare_eq_eq_iff, h]
        exact nofun
      have hlt : ¬ v < w := by
        rw [lt_iff_compare, h]
        exact nofun
      rw [if_neg hne, if_neg hlt]

/-- A version comes at or before another if it is below it or equal to it. -/
theorem le_iff_lt_or_beq (v w : Version) : v ≤ w ↔ v < w ∨ (v == w) = true := by
  rw [le_iff_compare, lt_iff_compare, ← compare_eq_eq_iff]
  cases v.compare w <;> decide

/-- **Exactly one of three holds**: a version is below another, equal to it, or above it. -/
theorem trichotomy (v w : Version) :
    v < w ∧ (v == w) = false ∧ ¬ w < v ∨ ¬ v < w ∧ (v == w) = true ∧ ¬ w < v ∨
      ¬ v < w ∧ (v == w) = false ∧ w < v := by
  rw [← Bool.not_eq_true, ← compare_eq_eq_iff, lt_iff_compare, lt_iff_compare, compare_eq_swap w v]
  cases v.compare w <;> decide

/-- A version is above another if it is neither below it nor equal to it. -/
theorem gt_iff_not_lt (v w : Version) : v > w ↔ ¬ v < w ∧ (v == w) = false := by
  rcases trichotomy v w with ⟨hlt, _, hgt⟩ | ⟨_, heq, hgt⟩ | ⟨hlt, hne, hgt⟩
  · exact iff_of_false hgt fun h => h.1 hlt
  · exact iff_of_false hgt fun h => Bool.false_ne_true (h.2.symm.trans heq)
  · exact iff_of_true hgt ⟨hlt, hne⟩

/-! ### Equal versions -/

/-- Versions of which one may stand for the other on either side of every comparison. -/
structure Interchangeable (v w : Version) : Prop where
  lt_left : ∀ x : Version, v < x ↔ w < x
  lt_right : ∀ x : Version, x < v ↔ x < w
  le_left : ∀ x : Version, v ≤ x ↔ w ≤ x
  le_right : ∀ x : Version, x ≤ v ↔ x ≤ w
  beq_left : ∀ x, (v == x) = (w == x)
  beq_right : ∀ x, (x == v) = (x == w)
  compare_left : ∀ x, v.compare x = w.compare x
  compare_right : ∀ x : Version, x.compare v = x.compare w
  sameMajor_left : ∀ x, v.sameMajor x = w.sameMajor x
  sameMajor_right : ∀ x : Version, x.sameMajor v = x.sameMajor w

/-- **Equal versions may stand for one another.** -/
theorem interchangeable_of_beq (h : (v == w) = true) : v.Interchangeable w := by
  have htokens := (beq_iff_tokens_eq v w).1 h
  have hmajor := major_eq_of_beq h
  have hleft : ∀ x, v.compare x = w.compare x := by
    intro x
    rw [compare, compare, htokens]
  have hright : ∀ x : Version, x.compare v = x.compare w := by
    intro x
    rw [compare, compare, htokens]
  have hbeq : ∀ x, (v == x) = (w == x) := by
    intro x
    rw [Bool.eq_iff_iff, beq_iff_tokens_eq, beq_iff_tokens_eq, htokens]
  have hbeq' : ∀ x, (x == v) = (x == w) := by
    intro x
    rw [Bool.eq_iff_iff, beq_iff_tokens_eq, beq_iff_tokens_eq, htokens]
  exact
    { lt_left := fun x => by rw [lt_iff_compare, lt_iff_compare, hleft]
      lt_right := fun x => by rw [lt_iff_compare, lt_iff_compare, hright]
      le_left := fun x => by rw [le_iff_compare, le_iff_compare, hleft]
      le_right := fun x => by rw [le_iff_compare, le_iff_compare, hright]
      beq_left := hbeq
      beq_right := hbeq'
      compare_left := hleft
      compare_right := hright
      sameMajor_left := fun x => by rw [sameMajor, sameMajor, hmajor]
      sameMajor_right := fun x => by rw [sameMajor, sameMajor, hmajor] }

instance : LawfulHashable Version where
  hash_eq v w h := by
    change hash v.tokens = hash w.tokens
    rw [(beq_iff_tokens_eq v w).1 h]

/-! ### The unspecified version -/

/-- What a text writes is the unspecified version itself, or it has tokens. -/
theorem parse_eq_unspecified_or (s : Text) : parse s = unspecified ∨ (parse s).tokens ≠ [] := by
  rw [parse]
  split
  · split
    · exact Or.inl rfl
    · next tokens hne => exact Or.inr hne
  · exact Or.inl rfl

/-- A version that has tokens is above the unspecified one. -/
theorem unspecified_lt (h : v.tokens ≠ []) : unspecified < v := by
  rw [lt_iff_lex]
  exact lex_of_begins List.nil_prefix h.symm

/-! ### All comparisons -/

/-- **Versions are totally ordered by their tokens.**  Of any two, one is below the other or they are equal,
and no two of these hold at once; to be below is transitive, and all other comparisons are told from it and
from equality.  Versions with equal tokens are equal, and then they have the same hash and the same first
token and may stand for one another.  The unspecified version is below all others that texts write and equal
to none of them.  A version that another one continues is below it, and of any other two the first tokens in
which they differ decide. -/
theorem comparisons_by_tokens (a b c : Version) :
    (a < b ∧ (a == b) = false ∧ ¬ b < a ∨ ¬ a < b ∧ (a == b) = true ∧ ¬ b < a ∨
      ¬ a < b ∧ (a == b) = false ∧ b < a) ∧
    (a < b → b < c → a < c) ∧
    (a ≤ b ↔ a < b ∨ (a == b) = true) ∧ (a > b ↔ ¬ a < b ∧ (a == b) = false) ∧ (a ≥ b ↔ ¬ a < b) ∧
    (a != b) = !(a == b) ∧
    a.compare b = (if a == b then .eq else if a < b then .lt else .gt) ∧
    a.compare b = (b.compare a).swap ∧ (a.compare b = .eq ↔ (a == b) = true) ∧
    ((a == b) = true ↔ a.tokens = b.tokens) ∧
    ((a == b) = true → hash a = hash b ∧ a.major = b.major ∧ a.Interchangeable b) ∧
    (∀ s, parse s = unspecified ∨ unspecified < parse s ∧ (parse s == unspecified) = false) ∧
    (a.tokens <+: b.tokens → a.tokens ≠ b.tokens → a < b) ∧
    ∀ shared s t rest rest', a.tokens = shared ++ s :: rest → b.tokens = shared ++ t :: rest' → s ≠ t →
      (a < b ↔ s.Below t) := by
  refine ⟨trichotomy a b, lt_trans, le_iff_lt_or_beq a b, gt_iff_not_lt a b, (not_lt_iff_le b a).symm,
    rfl, compare_eq_ite a b, compare_eq_swap a b, compare_eq_eq_iff a b, beq_iff_tokens_eq a b, ?_, ?_,
    ?_, ?_⟩
  · intro h
    exact ⟨hash_eq h, major_eq_of_beq h, interchangeable_of_beq h⟩
  · intro s
    refine (parse_eq_unspecified_or s).imp_right fun h => ⟨unspecified_lt h, ?_⟩
    rw [← Bool.not_eq_true, beq_iff_tokens_eq]
    exact h
  · intro hbegins hne
    rw [lt_iff_lex]
    exact lex_of_begins hbegins hne
  · intro shared s t rest rest' ha hb hne
    rw [lt_iff_lex, ha, hb]
    exact lex_append_cons_iff Token.not_below_self shared hne rest rest'

/-- Version 2.0 is below 2.0.beta, which continues it, and that is below 2.0.0, since a word is below a
number; and 2,00 is another way to write 2.0. -/
theorem comparisons_by_tokens_beta :
    let release := parse "2.0"
    let beta := parse "2.0.beta"
    let patch := parse "2.0.0"
    release < beta ∧ beta < patch ∧ release < patch ∧ (release == parse "2,00") = true ∧
      hash release = hash (parse "2,00") ∧ release.Interchangeable (parse "2,00") ∧
      unspecified < release := by
  intro release beta patch
  have hsame : (release == parse "2,00") = true := rfl
  obtain ⟨_, htrans, _, _, _, _, _, _, _, _, _, _, hbegins, _⟩ := comparisons_by_tokens release beta patch
  obtain ⟨_, _, _, _, _, _, _, _, _, _, _, _, _, hdiffer⟩ := comparisons_by_tokens beta patch patch
  obtain ⟨_, _, _, _, _, _, _, _, _, _, hequal, hread, _⟩ :=
    comparisons_by_tokens release (parse "2,00") release
  have hbeta : release < beta := hbegins ⟨[.word "beta"], rfl⟩ (by decide)
  have hpatch : beta < patch :=
    (hdiffer [.number 2, .number 0] (.word "beta") (.number 0) [] [] rfl rfl (by decide)).2
      (.wordNumber "beta" 0)
  obtain ⟨hhash, _, hinterchangeable⟩ := hequal hsame
  have hne : release ≠ unspecified := fun h => absurd (congrArg tokens h) (by decide)
  have hspecified : unspecified < release := ((hread "2.0").resolve_left hne).1
  exact ⟨hbeta, hpatch, htrans hbeta hpatch, hsame, hhash, hinterchangeable, hspecified⟩

end CpeMatch.Version
