import CpeMatch.Fault

/-!
**Texts that can be written.**

A text has octets unless half of a surrogate pair stands in it.  Literals and numbers have octets, and so has
what is quoted in a message: a half is no printable code point, so a quoted text has its number instead.  So
the words for a fault of a file, or of a text that has no octets, can be written themselves.

Main definitions:

* `CpeMatch.Text.IsEncodable` — a text that can be written;
* `CpeMatch.Fault.IsReportable` — a fault that is foreseen, and whose words can be written.

Main results:

* `CpeMatch.Text.unencodable?_eq_none_iff` — nothing keeps such a text from being written;
* `CpeMatch.Text.isEncodable_quoted` — **what is quoted can be written**;
* `CpeMatch.FileFault.isEncodable_message`, `CpeMatch.Text.Unencodable.isEncodable_message` — the words for a
  fault.
-/

set_option autoImplicit false

namespace CpeMatch

namespace Text

/-- No half of a surrogate pair stands in the text. -/
def IsEncodable (s : Text) : Prop := ∀ c ∈ s.points, c.isSurrogate = false

instance (s : Text) : Decidable s.IsEncodable := inferInstanceAs (Decidable (∀ c ∈ s.points, _))

theorem unencodableFrom_eq_none_iff (n : Nat) (cs : List CodePoint) :
    unencodableFrom (fun _ => false) n cs = none ↔ ∀ c ∈ cs, c.isSurrogate = false := by
  induction cs generalizing n with
  | nil => simp [unencodableFrom]
  | cons c cs ih =>
      rw [unencodableFrom, List.forall_mem_cons]
      cases c.isSurrogate with
      | true => simp
      | false => simp [ih]

/-- Nothing keeps a text without halves from being written. -/
theorem unencodable?_eq_none_iff {s : Text} : s.unencodable? = none ↔ s.IsEncodable :=
  unencodableFrom_eq_none_iff 0 s.points

/-! ### Parts of a text -/

@[simp] theorem isEncodable_append {s t : Text} : (s ++ t).IsEncodable ↔ s.IsEncodable ∧ t.IsEncodable :=
  List.forall_mem_append

theorem isEncodable_ofChars (cs : List Char) : (ofChars cs).IsEncodable := by
  intro c hc
  obtain ⟨d, -, rfl⟩ := List.mem_map.1 hc
  rfl

@[simp] theorem isEncodable_ofString (s : String) : (ofString s).IsEncodable := isEncodable_ofChars s.toList

/-! ### Characters -/

/-- The characters of a text, without the halves of surrogate pairs in it. -/
def chars (s : Text) : List Char := s.points.filterMap CodePoint.char?

@[simp] theorem chars_append (s t : Text) : (s ++ t).chars = s.chars ++ t.chars := List.filterMap_append ..

theorem filterMap_char?_map_char (cs : List Char) : (cs.map CodePoint.char).filterMap CodePoint.char? = cs := by
  rw [List.filterMap_map]
  exact List.filterMap_some

@[simp] theorem chars_ofChars (cs : List Char) : (ofChars cs).chars = cs := filterMap_char?_map_char cs

@[simp] theorem chars_ofString (s : String) : (ofString s).chars = s.toList := filterMap_char?_map_char s.toList

/-- The octets of a text are those of its characters. -/
theorem flatMap_chars (s : Text) : s.chars.flatMap String.utf8EncodeChar = utf8Encode s := by
  rw [chars, utf8Encode]
  induction s.points with
  | nil => rfl
  | cons c cs ih =>
      cases c with
      | char c => exact congrArg (String.utf8EncodeChar c ++ ·) ih
      | surrogate n => exact ih

/-- A text that can be written is that of its characters. -/
theorem ofChars_chars {s : Text} (hs : s.IsEncodable) : ofChars s.chars = s := by
  obtain ⟨points⟩ := s
  refine congrArg Text.mk ?_
  induction points with
  | nil => rfl
  | cons c cs ih =>
      obtain ⟨hc, hcs⟩ := List.forall_mem_cons.1 hs
      cases c with
      | char c => exact congrArg (CodePoint.char c :: ·) (ih hcs)
      | surrogate n => cases hc

/-! ### Quoted texts -/

/-- The runs of printable characters hold no halves. -/
theorem isPrintable_surrogate (n : Fin 2048) : isPrintable (.surrogate n) = false := by
  have hruns : ∀ run ∈ printableRanges, run.2 < 0xD800 ∨ 0xDFFF < run.1 := by decide +kernel
  have hascii : (CodePoint.surrogate n).isAscii = false := by
    have hle := CodePoint.le_toNat_surrogate n
    exact decide_eq_false (by omega)
  rw [isPrintable, hascii, if_neg Bool.false_ne_true, inRanges, List.any_eq_false]
  intro run hrun
  have houtside := hruns run hrun
  have hnumber : (CodePoint.surrogate n).toNat = 0xD800 + n := rfl
  rw [hnumber, Bool.and_eq_true, decide_eq_true_iff, decide_eq_true_iff]
  omega

theorem isSurrogate_of_mem_quotePoint {quote c d : CodePoint} (hquote : quote.isSurrogate = false)
    (hd : d ∈ quotePoint quote c) : d.isSurrogate = false := by
  rw [quotePoint] at hd
  split at hd
  next h =>
    have hc : c.isSurrogate = false := by
      rcases Bool.or_eq_true_iff.1 h with h | h
      · rwa [of_decide_eq_true h]
      · rw [of_decide_eq_true h]
        rfl
    rcases List.mem_cons.1 hd with rfl | hd
    · rfl
    · rwa [List.mem_singleton.1 hd]
  next =>
    split at hd
    · exact isEncodable_ofChars ['\\', 'n'] d hd
    split at hd
    · exact isEncodable_ofChars ['\\', 'r'] d hd
    split at hd
    · exact isEncodable_ofChars ['\\', 't'] d hd
    split at hd
    next hprintable =>
      rw [List.mem_singleton.1 hd]
      cases c with
      | char c => rfl
      | surrogate n =>
          rw [isPrintable_surrogate] at hprintable
          cases hprintable
    next => exact isEncodable_ofChars _ d hd

/-- **What is quoted can be written**, whatever it is. -/
@[simp] theorem isEncodable_quoted (s : Text) : (quoted s).IsEncodable := by
  have hquote : (quoteFor s.points).isSurrogate = false := by
    rw [quoteFor]
    split <;> rfl
  intro c hc
  rcases List.mem_append.1 hc with hc | hc
  · rcases List.mem_cons.1 hc with rfl | hc
    · exact hquote
    · obtain ⟨d, -, hd⟩ := List.mem_flatMap.1 hc
      exact isSurrogate_of_mem_quotePoint hquote hd
  · rwa [List.mem_singleton.1 hc]

/-- The words for what keeps a text from being written can be written themselves. -/
theorem Unencodable.isEncodable_message (u : Unencodable) : u.message.IsEncodable := by
  rw [message]
  split <;> simp [isEncodable_ofChars]

end Text

/-- The words for a fault of a file can be written, whatever its path is. -/
theorem FileFault.isEncodable_message (cause : FileFault) (path : Text) : (cause.message path).IsEncodable := by
  cases cause with
  | unencodable cause => exact cause.isEncodable_message
  | nullCharacter => exact Text.isEncodable_ofString _
  | _ => simp [message, systemMessage]

/-- The fault can be reported: it is foreseen, and its words can be written. -/
structure Fault.IsReportable (f : Fault) : Prop where
  foreseen : f.isForeseen = true
  encodable : f.message.IsEncodable

/-- That a number has too many digits to be written can be reported. -/
theorem Fault.isReportable_longNumeral : IsReportable .longNumeral := ⟨rfl, by simp [message]⟩

end CpeMatch
