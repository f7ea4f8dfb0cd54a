import CpeMatch.Json.Token
import CpeMatch.Json.Writer
import CpeMatch.Proofs.Number.Written
import CpeMatch.Proofs.Text.Encodable
import CpeMatch.Proofs.Text.Order

/-!
**Scalars are read as they are written.**

A text is written between quotes, with escapes that are read back one by one.  A number is written so that nothing
that may follow it in a document could go on with it: what follows is a comma, a line break or nothing.  An integer is
read as itself, and a floating-point number as whatever its decimal stands for.

Main definitions:

* `CpeMatch.Json.Follows` — what may follow a value in a document;
* `CpeMatch.Json.rereadNumber` — what a number is read as.

Main results:

* `CpeMatch.Json.readText_literal` — **a text is read as it is written**;
* `CpeMatch.Json.readNumber_whole`, `CpeMatch.Json.readNumber_decimal` — digits, and decimals;
* `CpeMatch.Json.readToken_numberText` — **and so is a number**.
-/

set_option autoImplicit false

namespace CpeMatch

open Number (IsWhole Decimal)

/-! ### Digits -/

section

variable {cs rest : List Char} (hcs : ∀ c ∈ cs, c.isDigit = true) (hrest : ∀ c ∈ rest.head?, c.isDigit = false)

include hcs hrest

theorem takeWhile_isDigit_append : (cs ++ rest).takeWhile Char.isDigit = cs := by
  rw [List.takeWhile_append_of_pos hcs]
  cases rest with
  | nil => rw [List.takeWhile_nil, List.append_nil]
  | cons c rest => rw [List.takeWhile_cons_of_neg (by rw [hrest c rfl]; exact Bool.false_ne_true), List.append_nil]

theorem dropWhile_isDigit_append : (cs ++ rest).dropWhile Char.isDigit = rest := by
  rw [List.dropWhile_append_of_pos hcs]
  cases rest with
  | nil => rfl
  | cons c rest => rw [List.dropWhile_cons_of_neg (by rw [hrest c rfl]; exact Bool.false_ne_true)]

end

theorem Number.natOfAscii_eq_ofDigitChars (ds : List Char) : natOfAscii ds = Nat.ofDigitChars 10 ds 0 := by
  simp only [natOfAscii, Nat.ofDigitChars, Nat.mul_comm]
  rfl

/-- The digits that a number is written with write that number. -/
theorem Number.natOfAscii_toDigits (n : Nat) : natOfAscii (Nat.toDigits 10 n) = n := by
  rw [natOfAscii_eq_ofDigitChars, Nat.ofDigitChars_toDigits (by decide) (by decide)]

namespace Json

/-! ### What follows a value -/

/-- What may follow a value in a document: a comma, a line break or nothing. -/
def Follows (rest : List Char) : Prop := ∀ c ∈ rest.head?, c = ',' ∨ c = '\n'

theorem follows_nil : Follows [] := nofun

section

variable {rest : List Char} (h : Follows rest)

include h

theorem Follows.isDigit : ∀ c ∈ rest.head?, c.isDigit = false := by
  intro c hc
  rcases h c hc with rfl | rfl <;> rfl

theorem Follows.not_tail {mark : Char → Bool} (hcomma : mark ',' = false) (hbreak : mark '\n' = false) (signed : Bool) :
    hasTail mark signed rest = false := by
  cases rest with
  | nil => rfl
  | cons c cs =>
      rcases h c rfl with rfl | rfl
      · simp [hasTail, hcomma]
      · simp [hasTail, hbreak]

theorem Follows.readExponent : Number.readExponent rest = (0, rest) := by
  cases rest with
  | nil => rfl
  | cons c cs => rcases h c rfl with rfl | rfl <;> rfl

end

/-! ### Numbers -/

section

variable {mark : Char → Bool} {m c : Char} (hm : mark m = true) (hc : c.isDigit = true) (cs : List Char)

include hm hc

theorem hasTail_digit (signed : Bool) : hasTail mark signed (m :: c :: cs) = true := by
  cases cs <;> simp [hasTail, hm, hc]

theorem hasTail_sign {sign : Char} (hsign : sign = '+' ∨ sign = '-') :
    hasTail mark true (m :: sign :: c :: cs) = true := by
  rcases hsign with rfl | rfl <;> simp [hasTail, hm, hc]

end

theorem wholeDigits_append {whole rest : List Char} (hwhole : IsWhole whole)
    (hrest : ∀ c ∈ rest.head?, c.isDigit = false) : wholeDigits (whole ++ rest) = whole := by
  cases hcs : whole with
  | nil => exact absurd hcs hwhole.ne_nil
  | cons c cs =>
      by_cases hzero : c = '0'
      · rw [hzero] at hcs
        have halone := hwhole.eq_zero (by rw [hcs]; rfl)
        rw [hcs] at halone
        rw [hzero, (List.cons.inj halone).2]
        rfl
      · have htake : wholeDigits (c :: cs ++ rest) = (c :: cs ++ rest).takeWhile Char.isDigit := by
          rw [List.cons_append, wholeDigits.eq_2]
          intro cs' hcs'
          exact hzero (List.cons.inj hcs').1
        rw [htake]
        exact takeWhile_isDigit_append (hcs ▸ hwhole.isDigit) hrest

/-- An integer is read as itself. -/
theorem readNumber_whole {rest : List Char} (hrest : Follows rest) (negative : Bool) {whole : List Char}
    (hwhole : IsWhole whole) :
    readNumber none negative (whole ++ rest) =
      (.scalar (.int (if negative then -(Number.natOfAscii whole : Int) else Number.natOfAscii whole)), rest) := by
  have hfraction : fractionDigits rest = [] := if_neg (by rw [hrest.not_tail rfl rfl]; exact Bool.false_ne_true)
  have htail : hasTail (fun c => c = 'e' || c = 'E') true rest = false := hrest.not_tail rfl rfl true
  have hnonempty : whole.isEmpty = false := List.isEmpty_eq_false_iff.2 hwhole.ne_nil
  simp [readNumber, wholeDigits_append hwhole hrest.isDigit, hfraction, htail, hnonempty]

section

variable (d : Decimal) {rest : List Char} (hrest : Follows rest)

include hrest

theorem isDigit_exponentText_append : ∀ c ∈ (d.exponentText ++ rest).head?, c.isDigit = false := by
  rw [Decimal.exponentText]
  cases d.exponent with
  | none => exact hrest.isDigit
  | some x =>
      rintro _ ⟨⟩
      rfl

theorem isDigit_fractionText_append :
    ∀ c ∈ (d.fractionText ++ (d.exponentText ++ rest)).head?, c.isDigit = false := by
  rw [Decimal.fractionText]
  split
  · exact isDigit_exponentText_append d hrest
  · rintro _ ⟨⟩
    rfl

/-- The digits behind the point are read as they are written. -/
theorem fractionDigits_append : fractionDigits (d.fractionText ++ (d.exponentText ++ rest)) = d.fraction := by
  cases hfraction : d.fraction with
  | nil =>
      have hpoint : hasTail (· = '.') false (d.exponentText ++ rest) = false := by
        rw [Decimal.exponentText]
        cases d.exponent with
        | none => exact hrest.not_tail rfl rfl false
        | some x => rfl
      rw [Decimal.fractionText, if_pos hfraction, List.nil_append, fractionDigits, hpoint]
      rfl
  | cons c cs =>
      have hdigits : ∀ b ∈ c :: cs, b.isDigit = true := hfraction ▸ d.isDigit_fraction
      have hpoint : hasTail (· = '.') false ('.' :: (c :: cs ++ (d.exponentText ++ rest))) = true :=
        hasTail_digit rfl (hdigits c (List.mem_cons_self ..)) _ false
      rw [Decimal.fractionText, hfraction, if_neg (List.cons_ne_nil c cs), List.cons_append, fractionDigits, hpoint,
        if_pos rfl, List.drop_succ_cons, List.drop_zero,
        takeWhile_isDigit_append hdigits (isDigit_exponentText_append d hrest)]

/-- The exponent is read as it is written. -/
theorem readExponent_append : Number.readExponent (d.exponentText ++ rest) = (d.power, rest) := by
  rw [Decimal.exponentText, Decimal.power]
  cases hexponent : d.exponent with
  | none => exact hrest.readExponent
  | some x =>
      obtain ⟨negative, digits⟩ := x
      obtain ⟨hne, hdigits⟩ := d.isDigit_exponent _ hexponent
      have htake := takeWhile_isDigit_append hdigits hrest.isDigit
      have hdrop := dropWhile_isDigit_append hdigits hrest.isDigit
      obtain ⟨c, cs, rfl⟩ := List.exists_cons_of_ne_nil hne
      rw [List.cons_append] at htake hdrop
      cases negative with
      | true => simp [Number.readExponent, htake, hdrop]
      | false => simp [Number.readExponent, htake, hdrop]

/-- A decimal with a fraction or an exponent is read as the floating-point number nearest to it. -/
theorem readNumber_decimal (negative : Bool) (hfloat : d.IsFloat) :
    readNumber none negative (d.text ++ rest) = (.scalar (.float (d.nearest negative)), rest) := by
  have hsplit : d.text ++ rest = d.whole ++ (d.fractionText ++ (d.exponentText ++ rest)) := by
    rw [Decimal.text, List.append_assoc, List.append_assoc]
  have hbehind : (if d.fraction.isEmpty then d.fractionText ++ (d.exponentText ++ rest)
      else (d.fractionText ++ (d.exponentText ++ rest)).drop (1 + d.fraction.length)) = d.exponentText ++ rest := by
    rw [Decimal.fractionText]
    cases d.fraction with
    | nil => rfl
    | cons c cs => simp [Nat.add_comm 1]
  have hisFloat : (!d.fraction.isEmpty || hasTail (fun c => c = 'e' || c = 'E') true (d.exponentText ++ rest)) =
      true := by
    rcases hfloat with hfraction | hexponent
    · rw [List.isEmpty_eq_false_iff.2 hfraction]
      rfl
    · rw [Decimal.exponentText]
      cases hsome : d.exponent with
      | none => exact absurd hsome hexponent
      | some x =>
          obtain ⟨negative, digits⟩ := x
          obtain ⟨hne, hdigits⟩ := d.isDigit_exponent _ hsome
          obtain ⟨c, cs, rfl⟩ := List.exists_cons_of_ne_nil hne
          have htail : hasTail (fun c => c = 'e' || c = 'E') true
              ('e' :: (if negative then '-' else '+') :: c :: (cs ++ rest)) = true :=
            hasTail_sign rfl (hdigits c (List.mem_cons_self ..)) _ (by cases negative <;> simp)
          exact Bool.or_eq_true_iff.2 (Or.inr htail)
  have hnonempty : d.whole.isEmpty = false := List.isEmpty_eq_false_iff.2 d.isWhole.ne_nil
  rw [hsplit]
  simp only [readNumber, wholeDigits_append d.isWhole (isDigit_fractionText_append d hrest), List.drop_left,
    hnonempty, fractionDigits_append d hrest, hbehind, hisFloat, readExponent_append d hrest]
  rfl

end

/-- Words begin with no digit. -/
theorem exists_cons_of_mem_words {w : List Char × Json} (hw : w ∈ words) :
    ∃ d ds, w.1 = d :: ds ∧ d.isDigit = false := by
  simp only [words, List.mem_cons, List.not_mem_nil, or_false] at hw
  rcases hw with rfl | rfl | rfl | rfl | rfl | rfl
  all_goals exact ⟨_, _, rfl, rfl⟩

/-- What begins with a digit is a number. -/
theorem readToken_digit (limit : Option Nat) {c : Char} (hc : c.isDigit = true) (cs : List Char) :
    readToken limit (c :: cs) = readNumber limit false (c :: cs) := by
  have hne : ∀ {d : Char}, d.isDigit = false → c ≠ d := by
    rintro d hd rfl
    rw [hc] at hd
    cases hd
  have hword : words.find? (fun w => w.1.isPrefixOf (c :: cs)) = none := by
    rw [List.find?_eq_none]
    intro w hw
    obtain ⟨d, ds, hw, hd⟩ := exists_cons_of_mem_words hw
    simp [hw, (hne hd).symm]
  have hmarks : c ≠ '[' ∧ c ≠ ']' ∧ c ≠ '\x7b' ∧ c ≠ '\x7d' ∧ c ≠ ':' ∧ c ≠ ',' ∧ c ≠ '"' ∧ c ≠ '-' :=
    ⟨hne rfl, hne rfl, hne rfl, hne rfl, hne rfl, hne rfl, hne rfl, hne rfl⟩
  simp [readToken, hmarks, hword]

/-- So is what begins with a minus sign and a digit. -/
theorem readToken_minus (limit : Option Nat) {c : Char} (hc : c.isDigit = true) (cs : List Char) :
    readToken limit ('-' :: c :: cs) = readNumber limit true (c :: cs) := by
  have hne : c ≠ 'I' := by
    rintro rfl
    cases hc
  have hword : words.find? (fun w => w.1.isPrefixOf ('-' :: c :: cs)) = none := by
    rw [List.find?_eq_none]
    intro w hw
    simp only [words, List.mem_cons, List.not_mem_nil, or_false] at hw
    rcases hw with rfl | rfl | rfl | rfl | rfl | rfl
    all_goals simp [List.isPrefixOf, hne.symm]
  simp [readToken, hword]

/-- A number with its sign. -/
theorem readToken_signed {cs rest : List Char} (hcs : ∀ c ∈ cs.head?, c.isDigit = true) (hne : cs ≠ [])
    (negative : Bool) :
    readToken none ((if negative then '-' :: cs else cs) ++ rest) = readNumber none negative (cs ++ rest) := by
  obtain ⟨c, cs, rfl⟩ := List.exists_cons_of_ne_nil hne
  cases negative with
  | true => exact readToken_minus none (hcs c rfl) (cs ++ rest)
  | false => exact readToken_digit none (hcs c rfl) (cs ++ rest)

/-- What a number is read as: an integer as itself, and a floating-point number as what its text stands for. -/
def rereadNumber : Number → Json
  | .whole n => .int n
  | .binary x => match readToken none (numberText (.binary x)).toList with
    | (.scalar v, _) => v
    | _ => .null

theorem text_ne_nil (d : Decimal) : d.text ≠ [] := List.append_ne_nil_of_left_ne_nil d.isWhole.ne_nil _

theorem isDigit_head?_text (d : Decimal) : ∀ c ∈ d.text.head?, c.isDigit = true := by
  rw [Decimal.text, List.head?_append_of_ne_nil _ d.isWhole.ne_nil]
  exact fun c hc => d.isWhole.isDigit c (List.mem_of_mem_head? hc)

section

variable {x : Float}

theorem numberText_of_nan (h : (Number.binaryOf x).magnitude = .nan) : numberText (.binary x) = "NaN" := by
  simp only [numberText, h]

theorem numberText_of_infinite (h : (Number.binaryOf x).magnitude = .infinite) :
    numberText (.binary x) = if (Number.binaryOf x).negative then "-Infinity" else "Infinity" := by
  simp only [numberText, h]

theorem exists_numberText_of_finite {m : Nat} {e : Int} (h : (Number.binaryOf x).magnitude = .finite m e) :
    ∃ d : Decimal, d.IsFloat ∧
      (numberText (.binary x)).toList = if (Number.binaryOf x).negative then '-' :: d.text else d.text := by
  simp only [numberText, h]
  exact Number.exists_decimal_of_finite h

end

theorem isDigit_head?_toDigits (n : Nat) : ∀ c ∈ (Nat.toDigits 10 n).head?, c.isDigit = true :=
  fun _ hc => Number.isDigit_of_mem_toDigits (List.mem_of_mem_head? hc)

theorem toList_numberText_whole (n : Int) : (numberText (.whole n)).toList =
    if decide (n < 0) then '-' :: Nat.toDigits 10 n.natAbs else Nat.toDigits 10 n.natAbs := by
  rw [numberText]
  cases n with
  | ofNat n => exact Nat.toList_repr
  | negSucc n =>
      change ("-" ++ (n + 1).repr).toList = _
      rw [String.toList_append, Nat.toList_repr, if_pos (decide_eq_true (Int.negSucc_lt_zero n))]
      rfl

/-- An integer is read as itself. -/
theorem readToken_whole (n : Int) {rest : List Char} (hrest : Follows rest) :
    readToken none ((numberText (.whole n)).toList ++ rest) = (.scalar (.int n), rest) := by
  have hwhole := Number.isWhole_toDigits n.natAbs
  have hsign : (if decide (n < 0) then -(n.natAbs : Int) else n.natAbs) = n := by
    simp only [decide_eq_true_eq]
    split <;> omega
  rw [toList_numberText_whole, readToken_signed (isDigit_head?_toDigits _) hwhole.ne_nil,
    readNumber_whole hrest _ hwhole, Number.natOfAscii_toDigits, hsign]

/-- **A number is read as it is written.** -/
theorem readToken_numberText (n : Number) {rest : List Char} (hrest : Follows rest) :
    readToken none ((numberText n).toList ++ rest) = (.scalar (rereadNumber n), rest) := by
  cases n with
  | whole n => exact readToken_whole n hrest
  | binary x =>
      -- it is enough that what is read does not depend on what follows
      obtain ⟨v, hv⟩ : ∃ v, ∀ rest, Follows rest →
          readToken none ((numberText (.binary x)).toList ++ rest) = (.scalar v, rest) := by
        cases hmagnitude : (Number.binaryOf x).magnitude with
        | nan =>
            rw [numberText_of_nan hmagnitude]
            exact ⟨.float Number.notNumber, fun _ _ => rfl⟩
        | infinite =>
            rw [numberText_of_infinite hmagnitude]
            cases (Number.binaryOf x).negative with
            | true => exact ⟨.float (Number.infinity true), fun _ _ => rfl⟩
            | false => exact ⟨.float (Number.infinity false), fun _ _ => rfl⟩
        | finite m e =>
            obtain ⟨d, hfloat, htext⟩ := exists_numberText_of_finite hmagnitude
            refine ⟨.float (d.nearest (Number.binaryOf x).negative), fun rest hrest => ?_⟩
            rw [htext, readToken_signed (isDigit_head?_text d) (text_ne_nil d), readNumber_decimal d hrest _ hfloat]
      have hself := hv [] follows_nil
      rw [List.append_nil] at hself
      rw [hv rest hrest, rereadNumber, hself]

theorem exists_cons_signed {cs : List Char} (hcs : ∀ c ∈ cs.head?, c.isDigit = true) (hne : cs ≠ []) (negative : Bool) :
    ∃ d ds, (if negative then '-' :: cs else cs) = d :: ds ∧ isGap d = false ∧ d ≠ '\uFEFF' := by
  cases negative with
  | true => exact ⟨'-', cs, rfl, rfl, by decide⟩
  | false =>
      obtain ⟨d, ds, rfl⟩ := List.exists_cons_of_ne_nil hne
      have hdigit := hcs d rfl
      refine ⟨d, ds, rfl, ?_, ?_⟩
      · by_contra hgap
        simp only [isGap, Bool.not_eq_false, Bool.or_eq_true, decide_eq_true_eq] at hgap
        rcases hgap with ((rfl | rfl) | rfl) | rfl
        all_goals exact absurd hdigit (by decide)
      · rintro rfl
        exact absurd hdigit (by decide)

/-- A number is written without a blank or a byte-order mark ahead. -/
theorem exists_cons_numberText (n : Number) :
    ∃ d ds, (numberText n).toList = d :: ds ∧ isGap d = false ∧ d ≠ '\uFEFF' := by
  cases n with
  | whole n =>
      rw [toList_numberText_whole]
      exact exists_cons_signed (isDigit_head?_toDigits _) Nat.toDigits_ne_nil _
  | binary x =>
      cases hmagnitude : (Number.binaryOf x).magnitude with
      | nan =>
          rw [numberText_of_nan hmagnitude]
          exact ⟨_, _, rfl, rfl, by decide⟩
      | infinite =>
          rw [numberText_of_infinite hmagnitude]
          cases (Number.binaryOf x).negative with
          | true => exact ⟨_, _, rfl, rfl, by decide⟩
          | false => exact ⟨_, _, rfl, rfl, by decide⟩
      | finite m e =>
          obtain ⟨d, -, htext⟩ := exists_numberText_of_finite hmagnitude
          rw [htext]
          exact exists_cons_signed (isDigit_head?_text d) (text_ne_nil d) _

/-! ### Texts -/

/-- The escape of a control character. -/
theorem hexDigits_of_lt : ∀ n < 0x20,
    Text.hexDigits 4 n = ['0', '0', Nat.digitChar (n / 16), Nat.digitChar (n % 16)] ∧
      unitOf? '0' '0' (Nat.digitChar (n / 16)) (Nat.digitChar (n % 16)) = some n := by
  decide

/-- A control character is not half of a pair. -/
theorem lowUnit?_of_lt {n : Nat} (hn : n < 0x20) (cs : List Char) : lowUnit? n cs = none := by
  have hnone : ∀ low, pointOfPair? n low = none := by
    intro low
    rw [pointOfPair?, if_neg]
    simp only [Bool.and_eq_true, decide_eq_true_eq]
    omega
  unfold lowUnit?
  split
  · rw [Option.bind_eq_none_iff.2 fun low _ => hnone low]
    rfl
  · rfl

theorem readText_unitEscape {n : Nat} (hn : n < 0x20) (done : List CodePoint) (rest : List Char) :
    readText done (unitEscape n ++ rest) = readText (.ofNat n :: done) rest := by
  obtain ⟨hdigits, hunit⟩ := hexDigits_of_lt n hn
  rw [unitEscape, hdigits]
  change readText done ('\\' :: 'u' :: '0' :: '0' :: Nat.digitChar (n / 16) :: Nat.digitChar (n % 16) :: rest) = _
  rw [readText]
  simp only [hunit]
  split
  next hpair =>
    rw [lowUnit?_of_lt hn] at hpair
    cases hpair
  next => rfl

/-- A character is escaped by a letter that is read as it, or by its number, or stands as it is. -/
theorem escapeFor?_cases (c : Char) :
    (∃ e, escapeFor? (.char c) = some ['\\', e] ∧ e ≠ 'u' ∧ escaped? e = some c) ∨
      (escapeFor? (.char c) = some (unitEscape c.toNat) ∧ c.toNat < 0x20) ∨
      escapeFor? (.char c) = none ∧ c ≠ '"' ∧ c ≠ '\\' ∧ ¬ c.toNat < 0x20 := by
  by_cases hletter : c ∈ ['"', '\\', '\n', '\r', '\t', '\x0c', '\x08']
  · left
    simp only [List.mem_cons, List.not_mem_nil, or_false] at hletter
    rcases hletter with rfl | rfl | rfl | rfl | rfl | rfl | rfl
    all_goals exact ⟨_, rfl, by decide, rfl⟩
  · right
    simp only [List.mem_cons, List.not_mem_nil, or_false, not_or] at hletter
    by_cases hcontrol : c.toNat < 0x20
    · exact Or.inl ⟨by simp [escapeFor?, hletter, hcontrol], hcontrol⟩
    · exact Or.inr ⟨by simp [escapeFor?, hletter, hcontrol], hletter.1, hletter.2.1, hcontrol⟩

/-- A character between quotes as it is written is read as the character. -/
theorem readText_escape (c : Char) (done : List CodePoint) (rest : List Char) :
    readText done ((escapeFor? (.char c)).getD [c] ++ rest) = readText (.char c :: done) rest := by
  rcases escapeFor?_cases c with ⟨e, he, hunit, hc⟩ | ⟨he, hlt⟩ | ⟨he, hquote, hslash, hge⟩
  · rw [he, Option.getD_some, List.cons_append, List.singleton_append, readText]
    · simp only [hc]
    · exact fun _ _ _ _ _ hu => absurd hu hunit
  · have hself : CodePoint.ofNat c.toNat = .char c := CodePoint.ofNat_toNat (.char c)
    rw [he, Option.getD_some, readText_unitEscape hlt, hself]
  · rw [he, Option.getD_none, List.singleton_append, readText]
    · simp [hge, hslash]
    · exact hquote
    · exact fun _ _ _ _ _ hc => absurd hc hslash
    · exact fun _ _ hc => absurd hc hslash

theorem filterMap_char?_literalPoint (c : Char) :
    (literalPoint (.char c)).filterMap CodePoint.char? = (escapeFor? (.char c)).getD [c] := by
  rw [literalPoint]
  cases escapeFor? (.char c) with
  | none => rfl
  | some cs => exact Text.filterMap_char?_map_char cs

/-- The characters of a text between quotes. -/
theorem chars_literal (cs : List Char) :
    (literal (.ofChars cs)).chars = '"' :: cs.flatMap (fun c => (escapeFor? (.char c)).getD [c]) ++ ['"'] := by
  have hbody : ((cs.map CodePoint.char).flatMap literalPoint).filterMap CodePoint.char? =
      cs.flatMap (fun c => (escapeFor? (.char c)).getD [c]) := by
    rw [List.flatMap_map, List.filterMap_flatMap]
    simp only [filterMap_char?_literalPoint]
  rw [Text.chars, literal, Text.points_ofChars, List.filterMap_append]
  change '"' :: ((cs.map CodePoint.char).flatMap literalPoint).filterMap CodePoint.char? ++ ['"'] = _
  rw [hbody]

/-- **A text is read as it is written.** -/
theorem readText_literal (cs : List Char) (done : List CodePoint) (rest : List Char) :
    readText done (cs.flatMap (fun c => (escapeFor? (.char c)).getD [c]) ++ '"' :: rest) =
      some (⟨done.reverse ++ cs.map CodePoint.char⟩, rest) := by
  induction cs generalizing done with
  | nil =>
      rw [List.flatMap_nil, List.nil_append, readText, List.map_nil, List.append_nil]
  | cons c cs ih =>
      rw [List.flatMap_cons, List.append_assoc, readText_escape, ih, List.reverse_cons, List.append_assoc,
        List.singleton_append, List.map_cons]

/-- What stands between quotes can be written only if the text can be. -/
theorem isEncodable_of_literal {s : Text} (h : (literal s).IsEncodable) : s.IsEncodable := by
  intro c hc
  cases c with
  | char c => rfl
  | surrogate n =>
      have hcontrol : ¬ (CodePoint.surrogate n).toNat < 0x20 := by
        have hle := CodePoint.le_toNat_surrogate n
        omega
      have hself : literalPoint (.surrogate n) = [.surrogate n] := by
        simp [literalPoint, escapeFor?, hcontrol]
      refine h _ (List.mem_append_left _ (List.mem_cons_of_mem _ (List.mem_flatMap.2 ⟨_, hc, ?_⟩)))
      rw [hself]
      exact List.mem_singleton_self _

theorem readToken_literal {s : Text} (hs : s.IsEncodable) (rest : List Char) :
    readToken none ((literal s).chars ++ rest) = (.scalar (.string s), rest) := by
  have hread := readText_literal s.chars [] rest
  have hself : (⟨[].reverse ++ s.chars.map CodePoint.char⟩ : Text) = s := Text.ofChars_chars hs
  rw [hself] at hread
  rw [← Text.ofChars_chars hs, chars_literal, Text.ofChars_chars hs, List.append_assoc, List.cons_append,
    List.singleton_append]
  simp [readToken, hread]

end Json

end CpeMatch
