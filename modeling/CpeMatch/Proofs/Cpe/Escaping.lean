import Mathlib.Data.List.Basic
import CpeMatch.Cpe
import CpeMatch.Proofs.Text.LowerCase

/-!
**Escaping the fields of a formatted string.**

In the formatted string of a name, a backslash is put ahead of every backslash and every colon of a field.
Reading takes the backslashes away again.  But it takes a colon for the end of a field whenever no
backslash is right ahead of it, without looking whether that backslash is itself an escaped one.  So a
field that ends in a backslash swallows the field behind it, and this is all that is lost.

Main definitions:

* `CpeMatch.Cpe.escape` — a field with its backslashes and colons escaped;
* `CpeMatch.Cpe.formattedString` — the name whose fields are given;
* `CpeMatch.Cpe.swallow`, `CpeMatch.Cpe.swallowed` — the fields that reading finds in it.

Main results:

* `CpeMatch.Cpe.unescape_escape_append` — the backslashes are taken away again;
* `CpeMatch.Cpe.fields_escapedFields`, `CpeMatch.Cpe.parse_formattedString` — a field that ends in a
  backslash swallows the next, and nothing else is lost;
* `CpeMatch.Cpe.parse_formattedString_iff` — **a name is read back if no field that matters ends in a
  backslash, and otherwise it is not**.
-/

set_option autoImplicit false

namespace CpeMatch.Cpe

/-! ### Escaping -/

/-- The backslash. -/
def backslash : CodePoint := '\\'

/-- The colon. -/
def colon : CodePoint := ':'

/-- A code point as it is written in a field. -/
def escapePoint (c : CodePoint) : List CodePoint :=
  if c = backslash ∨ c = colon then [backslash, c] else [c]

/-- A row of code points with a backslash ahead of each backslash and each colon. -/
def escapePoints (cs : List CodePoint) : List CodePoint := cs.flatMap escapePoint

/-- A text with a backslash ahead of each backslash and each colon. -/
def escape (t : Text) : Text := ⟨escapePoints t.points⟩

/-- Texts, escaped, with a colon between any two. -/
def escapedFields (fields : List Text) : Text :=
  Text.intercalate (Text.ofString ":") (fields.map escape)

/-- The formatted string whose fields are the given texts. -/
def formattedString (fields : List Text) : Text := Text.ofString "cpe:2.3:" ++ escapedFields fields

@[simp] theorem escapePoints_nil : escapePoints [] = [] := rfl

@[simp] theorem escapePoints_cons (c : CodePoint) (cs : List CodePoint) :
    escapePoints (c :: cs) = escapePoint c ++ escapePoints cs := rfl

theorem escapePoint_special {c : CodePoint} (h : c = backslash ∨ c = colon) :
    escapePoint c = [backslash, c] := if_pos h

theorem escapePoint_plain {c : CodePoint} (h : ¬ (c = backslash ∨ c = colon)) :
    escapePoint c = [c] := if_neg h

/-- What is written for a code point ends in it. -/
theorem getLast?_escapePoint (c : CodePoint) : (escapePoint c).getLast? = some c := by
  unfold escapePoint
  split <;> rfl

/-- Escaping leaves the last code point where it is. -/
theorem getLast?_escapePoints (cs : List CodePoint) : (escapePoints cs).getLast? = cs.getLast? := by
  induction cs with
  | nil => rfl
  | cons c cs ih =>
      rw [escapePoints_cons, List.getLast?_append, ih, getLast?_escapePoint, List.getLast?_cons]
      cases cs.getLast? <;> rfl

theorem points_escapedFields_singleton (field : Text) :
    (escapedFields [field]).points = (escape field).points := by
  simp [escapedFields, Text.intercalate]

theorem points_escapedFields_cons_cons (field next : Text) (rest : List Text) :
    (escapedFields (field :: next :: rest)).points =
      (escape field).points ++ colon :: (escapedFields (next :: rest)).points := by
  simp [escapedFields, Text.intercalate, List.intercalate_cons_cons, Text.ofString, colon]

/-- Fields end where the last of them does. -/
theorem getLast?_escapedFields {fields : List Text} {last : Text} {c : CodePoint}
    (hlast : fields.getLast? = some last) (hc : last.points.getLast? = some c) :
    (escapedFields fields).points.getLast? = some c := by
  match fields with
  | [] => cases hlast
  | [field] =>
      obtain rfl : field = last := Option.some.inj hlast
      rw [points_escapedFields_singleton, escape, getLast?_escapePoints, hc]
  | field :: next :: rest =>
      rw [List.getLast?_cons_cons] at hlast
      rw [points_escapedFields_cons_cons, List.getLast?_append, List.getLast?_cons,
        getLast?_escapedFields hlast hc]
      rfl

/-- Anything but a backslash is left as it is. -/
theorem unescape_cons_of_ne {c : CodePoint} (h : c ≠ backslash) (cs : List CodePoint) :
    unescape (c :: cs) = c :: unescape cs := by
  have h : c ≠ CodePoint.char '\\' := h
  cases cs with
  | nil => rfl
  | cons d cs => simp [unescape, h]

/-- Taking the backslashes away gives back what has been escaped, whatever follows it. -/
theorem unescape_escape_append (cs rest : List CodePoint) :
    unescape (escapePoints cs ++ rest) = cs ++ unescape rest := by
  induction cs with
  | nil => rfl
  | cons c cs ih =>
      rw [escapePoints_cons, List.append_assoc]
      by_cases hc : c = backslash ∨ c = colon
      · rw [escapePoint_special hc]
        have hline : c ≠ CodePoint.char '\n' := by
          rcases hc with rfl | rfl <;> decide
        simp only [List.cons_append, List.nil_append, unescape, backslash, decide_true, ne_eq, hline,
          not_false_eq_true, Bool.and_self, if_true, ih]
      · rw [escapePoint_plain hc]
        rw [List.singleton_append, unescape_cons_of_ne fun h => hc (Or.inl h), ih]
        rfl

/-! ### Splitting -/

/-- Puts code points ahead of the first field. -/
def prependField (cs : List CodePoint) (fields : List (List CodePoint)) : List (List CodePoint) :=
  cs.foldr consField fields

theorem prependField_cons (cs field : List CodePoint) (fields : List (List CodePoint)) :
    prependField cs (field :: fields) = (cs ++ field) :: fields := by
  induction cs with
  | nil => rfl
  | cons c cs ih =>
      simp only [prependField, List.foldr_cons] at ih ⊢
      rw [ih]
      rfl

/-- There is always a first field. -/
theorem exists_splitFields (escapes escaped : Bool) (cs : List CodePoint) :
    ∃ field fields, splitFields escapes escaped cs = field :: fields := by
  cases cs with
  | nil => exact ⟨[], [], rfl⟩
  | cons c cs =>
      rw [splitFields]
      split
      · exact ⟨_, _, rfl⟩
      · cases splitFields escapes (decide (c = CodePoint.char '\\')) cs with
        | nil => exact ⟨_, _, rfl⟩
        | cons field fields => exact ⟨_, _, rfl⟩

/-- Whether a row of code points ends in a backslash; of an empty one, whether a backslash is ahead. -/
def endsInBackslash (escaped : Bool) : List CodePoint → Bool
  | [] => escaped
  | c :: cs => endsInBackslash (c = backslash) cs

theorem endsInBackslash_iff (cs : List CodePoint) :
    endsInBackslash false cs = true ↔ cs.getLast? = some backslash := by
  cases cs with
  | nil => simp [endsInBackslash]
  | cons c cs =>
      rw [endsInBackslash]
      induction cs generalizing c with
      | nil => simp [endsInBackslash]
      | cons d cs ih => rw [endsInBackslash, ih, List.getLast?_cons_cons]

/-- What is written for a code point has no field end in it. -/
theorem splitFields_escapePoint (escaped : Bool) (c : CodePoint) (rest : List CodePoint) :
    splitFields true escaped (escapePoint c ++ rest) =
      prependField (escapePoint c) (splitFields true (c = backslash) rest) := by
  by_cases hc : c = backslash ∨ c = colon
  · rw [escapePoint_special hc]
    simp only [List.cons_append, List.nil_append, splitFields, Bool.false_eq_true, if_false, backslash,
      decide_true, Bool.and_self, Bool.not_true, Bool.and_false]
    rfl
  · have hcolon : ¬ (c = CodePoint.char ':') := fun h => hc (Or.inr h)
    rw [escapePoint_plain hc]
    simp only [List.cons_append, List.nil_append, splitFields, hcolon, decide_false, Bool.false_and,
      Bool.false_eq_true, if_false]
    rfl

/-- Escaped text has no field end in it, and leaves to what follows whether it ends in a backslash. -/
theorem splitFields_escape_append (escaped : Bool) (cs rest : List CodePoint) :
    splitFields true escaped (escapePoints cs ++ rest) =
      prependField (escapePoints cs) (splitFields true (endsInBackslash escaped cs) rest) := by
  induction cs generalizing escaped with
  | nil => rfl
  | cons c cs ih =>
      rw [escapePoints_cons, List.append_assoc, splitFields_escapePoint, ih, endsInBackslash,
        prependField, prependField, prependField, List.foldr_append]

/-! ### Fields -/

/-- The text ends in a backslash. -/
def EndsInBackslash (t : Text) : Prop := t.points.getLast? = some backslash

instance (t : Text) : Decidable (EndsInBackslash t) :=
  inferInstanceAs (Decidable (t.points.getLast? = some backslash))

/-- A field ahead of others, as reading finds it: if it ends in a backslash, the next is taken for a part
of it, and the colon between them. -/
def swallow (field : Text) : List Text → List Text
  | [] => [field]
  | next :: others =>
    if EndsInBackslash field then (field ++ (⟨[colon]⟩ ++ next)) :: others else field :: next :: others

/-- The fields that reading finds in the formatted string of given fields. -/
def swallowed (fields : List Text) : List Text := fields.foldr swallow []

@[simp] theorem swallowed_cons (field : Text) (rest : List Text) :
    swallowed (field :: rest) = swallow field (swallowed rest) := rfl

theorem swallow_of_not {field : Text} (h : ¬ EndsInBackslash field) (fields : List Text) :
    swallow field fields = field :: fields := by
  cases fields with
  | nil => rfl
  | cons next others => exact if_neg h

theorem swallow_of {field : Text} (h : EndsInBackslash field) (next : Text) (others : List Text) :
    swallow field (next :: others) = (field ++ (⟨[colon]⟩ ++ next)) :: others := if_pos h

theorem swallow_ne_nil (field : Text) (fields : List Text) : swallow field fields ≠ [] := by
  cases fields with
  | nil => exact List.cons_ne_nil _ _
  | cons next others =>
      rw [swallow]
      split <;> exact List.cons_ne_nil _ _

theorem swallowed_ne_nil {fields : List Text} (h : fields ≠ []) : swallowed fields ≠ [] := by
  cases fields with
  | nil => exact absurd rfl h
  | cons field rest => exact swallow_ne_nil field _

/-- The one field of escaped text. -/
theorem fields_escape (field : Text) :
    Binding.formatted.fields (escape field).points = [field] := by
  have hsplit := splitFields_escape_append false field.points []
  have hunescape := unescape_escape_append field.points []
  simp only [List.append_nil, splitFields_nil, unescape_nil, prependField_cons] at hsplit hunescape
  simp only [Binding.fields, escape, hsplit, List.map_cons, List.map_nil, hunescape]

theorem splitFields_colon (escaped : Bool) (tail : List CodePoint) :
    splitFields true escaped (colon :: tail) =
      if escaped then consField colon (splitFields true false tail)
      else [] :: splitFields true false tail := by
  cases escaped <;> rfl

/-- The fields of escaped text with a colon behind it. -/
theorem fields_escape_colon (field : Text) (tail : List CodePoint) :
    Binding.formatted.fields ((escape field).points ++ colon :: tail) =
      swallow field (Binding.formatted.fields tail) := by
  obtain ⟨next, others, htail⟩ := exists_splitFields true false tail
  simp only [Binding.fields, escape, splitFields_escape_append, splitFields_colon, htail, List.map_cons]
  by_cases h : EndsInBackslash field
  · have hunescape := unescape_escape_append field.points (colon :: next)
    rw [unescape_cons_of_ne (c := colon) (by decide)] at hunescape
    rw [swallow_of h, (endsInBackslash_iff field.points).2 h, if_pos rfl, consField, prependField_cons,
      List.map_cons, hunescape]
    rfl
  · have hends : endsInBackslash false field.points = false :=
      Bool.eq_false_iff.2 fun hends => h ((endsInBackslash_iff field.points).1 hends)
    rw [swallow_of_not h, hends, if_neg Bool.false_ne_true, prependField_cons, List.map_cons,
      unescape_escape_append, unescape_nil, List.append_nil]
    rfl

/-- **What reading finds**: the fields that have been written, but for those that end in a backslash. -/
theorem fields_escapedFields (field : Text) (rest : List Text) :
    Binding.formatted.fields (escapedFields (field :: rest)).points = swallowed (field :: rest) := by
  induction rest generalizing field with
  | nil =>
      rw [points_escapedFields_singleton, fields_escape]
      rfl
  | cons next rest ih => rw [points_escapedFields_cons_cons, fields_escape_colon, ih, ← swallowed_cons]

/-! ### Names -/

/-- The last field is there, and does not end in a blank. -/
def EndsPlain (fields : List Text) : Prop :=
  ∃ last c, fields.getLast? = some last ∧ last.points.getLast? = some c ∧ Text.isBlank c = false

/-- The name that is read in a formatted string. -/
theorem parse_formattedString {fields : List Text} (h : EndsPlain fields) :
    parse (formattedString fields) = ofFields (formattedString fields) (swallowed fields) := by
  obtain ⟨last, c, hlast, hc, hblank⟩ := h
  have hpoints : (formattedString fields).points =
      Binding.formatted.scheme ++ (escapedFields fields).points := rfl
  have hstrip : Text.strip (formattedString fields) = formattedString fields := by
    have hends : (formattedString fields).points.getLast? = some c := by
      rw [hpoints, List.getLast?_append, getLast?_escapedFields hlast hc]
      rfl
    rw [Text.strip, Text.stripPoints_eq_self]
    · intro d hd
      obtain rfl : CodePoint.char 'c' = d := Option.some.inj hd
      decide
    · intro d hd
      rw [hends] at hd
      rwa [← Option.some.inj hd]
  obtain ⟨field, rest, rfl⟩ : ∃ field rest, fields = field :: rest := by
    cases fields with
    | nil => cases hlast
    | cons field rest => exact ⟨field, rest, rfl⟩
  have hbegins : Binding.formatted.begins (formattedString (field :: rest)).points = true := rfl
  rw [parse, hstrip]
  simp only [hbegins, if_true]
  rw [hpoints, List.drop_left, fields_escapedFields]

/-- If what is read in a field tells whether something has been put behind it, then the first fields are
read as they have been written only if none of them ends in a backslash. -/
theorem swallowed_agrees_iff (read : Nat → Text → Text)
    (hread : ∀ i s t, t.points ≠ [] → read i (s ++ t) ≠ read i s) (n : Nat) {fields : List Text}
    (hn : n < fields.length) :
    (∀ i < n, read i ((swallowed fields).getD i Text.empty) = read i (fields.getD i Text.empty)) ↔
      ∀ field ∈ fields.take n, ¬ EndsInBackslash field := by
  induction n generalizing fields read with
  | zero => simp
  | succ n ih =>
      obtain ⟨field, rest, rfl⟩ := List.exists_cons_of_length_pos (Nat.zero_lt_of_lt hn)
      have hrest : n < rest.length := Nat.lt_of_succ_lt_succ hn
      have ih := ih (fun i => read (i + 1)) (fun i => hread (i + 1)) hrest
      rw [Nat.forall_lt_succ_left, List.take_succ_cons, List.forall_mem_cons, swallowed_cons]
      by_cases h : EndsInBackslash field
      · obtain ⟨next, others, hothers⟩ : ∃ next others, swallowed rest = next :: others :=
          List.ne_nil_iff_exists_cons.1 (swallowed_ne_nil (List.ne_nil_of_length_pos (by omega)))
        rw [hothers, swallow_of h]
        constructor
        · rintro ⟨hfirst, _⟩
          exact absurd hfirst (hread 0 field _ (List.cons_ne_nil _ _))
        · rintro ⟨hnot, _⟩
          exact absurd h hnot
      · rw [swallow_of_not h]
        constructor
        · rintro ⟨_, hothers⟩
          exact ⟨h, ih.1 hothers⟩
        · rintro ⟨_, hothers⟩
          exact ⟨rfl, ih.2 hothers⟩

/-- **A name is read back if no field that matters ends in a backslash, and otherwise it is not.**  In the
formatted string of six fields or more, each with its backslashes and colons escaped, the fields are those
that have been written, but that one which ends in a backslash has the next behind it, with a colon between
them.  So part, vendor, product, version and update are what has been written exactly if none of the five
ends in a backslash. -/
theorem parse_formattedString_iff (part vendor product version update : Text) {rest : List Text}
    (hrest : EndsPlain rest) :
    let fields := part :: vendor :: product :: version :: update :: rest
    let name := parse (formattedString fields)
    name = ofFields (formattedString fields) (swallowed fields) ∧
      ((name.part = Text.lower part ∧ name.vendor = Text.lower vendor ∧
          name.product = Text.lower product ∧ name.versionText = version ∧ name.update = update) ↔
        ∀ field ∈ [part, vendor, product, version, update], ¬ EndsInBackslash field) := by
  intro fields name
  obtain ⟨last, c, hlast, hc⟩ := hrest
  have hname : name = ofFields (formattedString fields) (swallowed fields) := by
    refine parse_formattedString ⟨last, c, ?_, hc⟩
    rw [show fields = [part, vendor, product, version, update] ++ rest from rfl, List.getLast?_append, hlast]
    rfl
  have hlength : 5 < fields.length := by
    have hmem := List.length_pos_of_mem (List.mem_of_getLast? hlast)
    simp only [fields, List.length_cons]
    omega
  have hagrees := swallowed_agrees_iff (fun i t => if i < 3 then Text.lower t else t) ?_ 5 hlength
  · refine ⟨hname, ?_⟩
    rw [hname]
    refine Iff.trans ?_ hagrees
    constructor
    · rintro ⟨hpart, hvendor, hproduct, hversion, hupdate⟩ i hi
      match i, hi with
      | 0, _ => exact hpart
      | 1, _ => exact hvendor
      | 2, _ => exact hproduct
      | 3, _ => exact hversion
      | 4, _ => exact hupdate
    · intro h
      exact ⟨h 0 (by decide), h 1 (by decide), h 2 (by decide), h 3 (by decide), h 4 (by decide)⟩
  · intro i s t ht
    by_cases hi : i < 3
    · simpa only [if_pos hi] using Text.lower_append_ne ht
    · simp only [if_neg hi]
      intro h
      exact ht (List.append_right_eq_self.1 (congrArg Text.points h))

/-- Backslashes within the vendor and a colon in the version are read back. -/
theorem parse_formattedString_iff_inner :
    EndsPlain ["x"] ∧
      (parse (formattedString ["a", "v\\:w", "p", "1:2", "u", "x"])).vendor = Text.lower "v\\:w" ∧
      (parse (formattedString ["a", "v\\:w", "p", "1:2", "u", "x"])).versionText = "1:2" := by
  have hrest : EndsPlain ["x"] := ⟨"x", 'x', rfl, rfl, by decide⟩
  have h := ((parse_formattedString_iff "a" "v\\:w" "p" "1:2" "u" hrest).2).2 (by decide)
  exact ⟨hrest, h.2.1, h.2.2.2.1⟩

/-- A vendor that ends in a backslash is read with the product behind it, though the two backslashes that
are written for it are an escaped backslash and leave the colon free to end the field. -/
theorem parse_formattedString_swallows_product :
    formattedString ["a", "v\\", "p", "1", "u", "x"] = "cpe:2.3:a:v\\\\:p:1:u:x" ∧
      (parse (formattedString ["a", "v\\", "p", "1", "u", "x"])).vendor = "v\\:p" ∧
      (parse (formattedString ["a", "v\\", "p", "1", "u", "x"])).product = "1" ∧
      (parse (formattedString ["a", "v\\", "p", "1", "u", "x"])).vendor ≠ Text.lower "v\\" := by
  refine ⟨by decide, by decide, by decide, by decide⟩

end CpeMatch.Cpe
