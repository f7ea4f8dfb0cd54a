import CpeMatch.Proofs.Cpe.Escaping
import CpeMatch.Proofs.Text.LetterCase
import CpeMatch.Proofs.Text.PercentEncoding

/-!
**The fields of a URI.**

In the URI of a name the fields are percent-encoded and joined by colons.  The name is taken apart before
anything is decoded, so that a colon, a blank or a percent sign of a field, which are always escaped, are
read back as part of it.  That holds for every encoding of the fields and every spelling of the scheme.

Main definitions:

* `CpeMatch.Cpe.uriString` — the name whose encoded fields are given.

Main results:

* `CpeMatch.Cpe.splitFields_intercalate` — encoded fields are taken apart at the colons between them;
* `CpeMatch.Cpe.parse_uriString` — **any number of fields is read back**;
* `CpeMatch.Cpe.parse_uriString_five` — part, vendor, product, version and update.
-/

set_option autoImplicit false

namespace CpeMatch.Cpe

open Text (PercentEncodes IsSafe)

/-- The URI with the given scheme and fields, each of which is encoded. -/
def uriString (scheme : List Char) (fields : List (List Char)) : Text :=
  Text.ofChars (scheme ++ [':'].intercalate fields)

/-- The characters are those of the scheme of a URI, in any letter case. -/
def IsUriScheme (scheme : List Char) : Prop := scheme.map Char.toLower = ['c', 'p', 'e', ':', '/']

/-! ### Splitting -/

/-- Where a colon always ends a field, it does not matter what is ahead. -/
theorem splitFields_escaped (escaped : Bool) (cs : List CodePoint) :
    splitFields false escaped cs = splitFields false false cs := by
  cases cs with
  | nil => rfl
  | cons c cs => simp only [splitFields, Bool.false_and]

/-- Text without a colon has no field end in it. -/
theorem splitFields_append {w : List Char} (hw : ∀ d ∈ w, d ≠ ':') (rest : List CodePoint) :
    splitFields false false (w.map CodePoint.char ++ rest) =
      prependField (w.map CodePoint.char) (splitFields false false rest) := by
  induction w with
  | nil => rfl
  | cons d w ih =>
      have hd : CodePoint.char d ≠ CodePoint.char ':' :=
        fun h => hw d (List.mem_cons_self ..) (CodePoint.char.inj h)
      rw [List.map_cons, List.cons_append, splitFields, decide_eq_false hd, Bool.false_and,
        if_neg Bool.false_ne_true, splitFields_escaped, ih fun e he => hw e (List.mem_cons_of_mem d he)]
      rfl

/-- Fields without colons are taken apart at the colons between them. -/
theorem splitFields_intercalate {ws : List (List Char)} (hne : ws ≠ [])
    (hws : ∀ w ∈ ws, ∀ d ∈ w, d ≠ ':') :
    splitFields false false (([':'].intercalate ws).map CodePoint.char) =
      ws.map (List.map CodePoint.char) := by
  match ws with
  | [] => exact absurd rfl hne
  | [w] =>
      have hlast := splitFields_append (hws w (List.mem_cons_self ..)) []
      rw [List.append_nil, splitFields_nil, prependField_cons, List.append_nil] at hlast
      rw [List.intercalate_singleton, hlast]
      rfl
  | w :: v :: ws =>
      have hrest := splitFields_intercalate (List.cons_ne_nil v ws)
        fun u hu => hws u (List.mem_cons_of_mem w hu)
      have hcolon : splitFields false false
          ([':'].map CodePoint.char ++ ([':'].intercalate (v :: ws)).map CodePoint.char) =
            [] :: (v :: ws).map (List.map CodePoint.char) := by
        rw [← hrest]
        rfl
      rw [List.intercalate_cons_cons, List.map_append, List.map_append, List.append_assoc,
        splitFields_append (hws w (List.mem_cons_self ..)), hcolon, prependField_cons, List.append_nil,
        List.map_cons (l := v :: ws)]

/-! ### Fields -/

theorem isSafe_of_mem {fields ws : List (List Char)} (h : List.Forall₂ PercentEncodes fields ws) :
    ∀ w ∈ ws, ∀ d ∈ w, IsSafe d := by
  induction h with
  | nil => simp
  | cons hw h ih => exact List.forall_mem_cons.2 ⟨hw.isSafe, ih⟩

theorem percentDecode_each {fields ws : List (List Char)} (h : List.Forall₂ PercentEncodes fields ws) :
    (ws.map (List.map CodePoint.char)).map (fun w => (⟨Text.percentDecode w⟩ : Text)) =
      fields.map Text.ofChars := by
  induction h with
  | nil => rfl
  | cons hw h ih =>
      rw [List.map_cons, List.map_cons, List.map_cons, ih, hw.percentDecode_eq]
      rfl

/-- Encodings with colons between them are read as what has been encoded. -/
theorem fields_intercalate {fields ws : List (List Char)} (hne : ws ≠ [])
    (h : List.Forall₂ PercentEncodes fields ws) :
    Binding.uri.fields (([':'].intercalate ws).map CodePoint.char) = fields.map Text.ofChars := by
  rw [Binding.fields, splitFields_intercalate hne fun w hw d hd => (isSafe_of_mem h w hw d hd).not_colon,
    percentDecode_each h]

/-! ### Names -/

theorem mem_intercalate_colon {ws : List (List Char)} {d : Char} (hd : d ∈ [':'].intercalate ws) :
    d = ':' ∨ ∃ w ∈ ws, d ∈ w := by
  match ws with
  | [] => cases hd
  | [w] =>
      rw [List.intercalate_singleton] at hd
      exact Or.inr ⟨w, List.mem_cons_self .., hd⟩
  | w :: v :: ws =>
      rw [List.intercalate_cons_cons, List.mem_append, List.mem_append, List.mem_singleton] at hd
      rcases hd with (hd | hd) | hd
      · exact Or.inr ⟨w, List.mem_cons_self .., hd⟩
      · exact Or.inl hd
      · rcases mem_intercalate_colon hd with hd | ⟨u, hu, hd⟩
        · exact Or.inl hd
        · exact Or.inr ⟨u, List.mem_cons_of_mem w hu, hd⟩

/-- There is no blank in a URI whose fields are encoded. -/
theorem not_blank_of_mem_uriString {scheme : List Char} {fields ws : List (List Char)}
    (hscheme : IsUriScheme scheme) (h : List.Forall₂ PercentEncodes fields ws) :
    ∀ c ∈ (uriString scheme ws).points, Text.isBlank c = false := by
  intro c hc
  obtain ⟨d, hd, rfl⟩ := List.mem_map.1 hc
  rcases List.mem_append.1 hd with hd | hd
  · have hsmall : d.toLower ∈ ['c', 'p', 'e', ':', '/'] := hscheme ▸ List.mem_map_of_mem hd
    rw [← Text.isBlank_small, CodePoint.small, CodePoint.mapChar_char]
    simp only [List.mem_cons, List.not_mem_nil, or_false] at hsmall
    rcases hsmall with h | h | h | h | h
    all_goals rw [h]
    all_goals decide
  · rcases mem_intercalate_colon hd with rfl | ⟨w, hw, hd⟩
    · decide
    · exact (isSafe_of_mem h w hw d hd).not_blank

/-- **Any number of fields is read back**, however they are encoded and however the scheme is spelt. -/
theorem parse_uriString {scheme : List Char} {fields ws : List (List Char)} (hscheme : IsUriScheme scheme)
    (hne : ws ≠ []) (h : List.Forall₂ PercentEncodes fields ws) :
    parse (uriString scheme ws) = ofFields (uriString scheme ws) (fields.map Text.ofChars) := by
  have hblank := not_blank_of_mem_uriString hscheme h
  have hstrip : Text.strip (uriString scheme ws) = uriString scheme ws := by
    rw [Text.strip, Text.stripPoints_eq_self]
    · exact fun c hc => hblank c (List.mem_of_mem_head? hc)
    · exact fun c hc => hblank c (List.mem_of_mem_getLast? hc)
  have hpoints : (uriString scheme ws).points =
      scheme.map CodePoint.char ++ ([':'].intercalate ws).map CodePoint.char := List.map_append
  have hlength : (scheme.map CodePoint.char).length = Binding.uri.scheme.length := by
    rw [List.length_map, ← List.length_map Char.toLower, hscheme]
    rfl
  have hsmall : (scheme.map CodePoint.char).map (·.mapChar Char.toLower) = Binding.uri.scheme := by
    have hmap := congrArg (List.map CodePoint.char) hscheme
    rw [List.map_map] at hmap ⊢
    exact hmap
  have huri : Binding.uri.begins (uriString scheme ws).points = true := by
    rw [Binding.begins, hpoints, ← hlength, List.take_left, hsmall]
    exact beq_self_eq_true _
  have hformatted : Binding.formatted.begins (uriString scheme ws).points = false := by
    -- the fifth character is a slash, where the scheme of a formatted string has the figure of its version
    rw [Bool.eq_false_iff]
    intro hbegins
    have hfive := congrArg (List.take Binding.uri.scheme.length) (eq_of_beq hbegins)
    rw [← List.map_take, List.take_take, hpoints, Nat.min_eq_left (by decide), ← hlength, List.take_left,
      hsmall, hlength] at hfive
    exact absurd hfive (by decide)
  simp only [parse, hstrip, hformatted, Bool.false_eq_true, if_false, huri, if_true]
  rw [hpoints, ← hlength, List.drop_left, fields_intercalate hne h]

/-- **Part, vendor, product, version and update are read back** from a URI in which each of them is
encoded: part, vendor and product in lower case, version and update as they are. -/
theorem parse_uriString_five {scheme : List Char} {part vendor product version update : List Char}
    {p v r n u : List Char} (hscheme : IsUriScheme scheme) (hpart : PercentEncodes part p)
    (hvendor : PercentEncodes vendor v) (hproduct : PercentEncodes product r)
    (hversion : PercentEncodes version n) (hupdate : PercentEncodes update u) :
    let name := parse (uriString scheme [p, v, r, n, u])
    name.part = Text.lower (Text.ofChars part) ∧
      name.vendor = Text.lower (Text.ofChars vendor) ∧
      name.product = Text.lower (Text.ofChars product) ∧
      name.versionText = Text.ofChars version ∧
      name.update = Text.ofChars update ∧
      name.version = Version.ofParts (some (Text.ofChars version)) (some (Text.ofChars update)) := by
  intro name
  have hname : name = ofFields (uriString scheme [p, v, r, n, u])
      ([part, vendor, product, version, update].map Text.ofChars) :=
    parse_uriString hscheme (List.cons_ne_nil p _)
      (.cons hpart (.cons hvendor (.cons hproduct (.cons hversion (.cons hupdate .nil)))))
  rw [hname]
  exact ⟨rfl, rfl, rfl, rfl, rfl, rfl⟩

/-- A vendor with a letter beyond ASCII, a colon and a percent sign, next to fields whose letters and blanks
are escaped with digits of either case. -/
theorem parse_uriString_five_mixed :
    let name := parse "CpE:/%61:%c3%89a%3Ab%25:X%20y:1%3a2:%Ce%B2"
    IsUriScheme "CpE:/".toList ∧ PercentEncodes "a".toList "%61".toList ∧
      PercentEncodes "Éa:b%".toList "%c3%89a%3Ab%25".toList ∧ PercentEncodes "X y".toList "X%20y".toList ∧
      PercentEncodes "1:2".toList "1%3a2".toList ∧ PercentEncodes "β".toList "%Ce%B2".toList ∧
      name.part = "a" ∧ name.vendor = "éa:b%" ∧ name.product = "x y" ∧ name.versionText = "1:2" ∧
      name.update = "β" ∧ name.version = Version.ofParts (some "1:2") (some "β") := by
  intro name
  have hscheme : IsUriScheme "CpE:/".toList := by unfold IsUriScheme; decide
  have hend : PercentEncodes [] [] := .nil
  have hpart : PercentEncodes "a".toList "%61".toList :=
    .escaped (c := 'a') (e := "%61".toList) (.cons false false 0x61 .nil) hend
  have hletter : Text.PercentEscapes (String.utf8EncodeChar 'É') "%c3%89".toList :=
    .cons false false 0xC3 (.cons false false 0x89 .nil)
  have hpercent : PercentEncodes "%".toList "%25".toList :=
    .escaped (c := '%') (e := "%25".toList) (.cons false false 0x25 .nil) hend
  have hcolon : PercentEncodes ":b%".toList "%3Ab%25".toList :=
    .escaped (c := ':') (e := "%3A".toList) (.cons false true 0x3A .nil)
      (.literal (c := 'b') (by decide) hpercent)
  have hvendor : PercentEncodes "Éa:b%".toList "%c3%89a%3Ab%25".toList :=
    .escaped (c := 'É') hletter (.literal (c := 'a') (by decide) hcolon)
  have hblank : Text.PercentEscapes (String.utf8EncodeChar ' ') "%20".toList := .cons false false 0x20 .nil
  have hproduct : PercentEncodes "X y".toList "X%20y".toList :=
    .literal (c := 'X') (by decide) (.escaped (c := ' ') hblank (.literal (c := 'y') (by decide) hend))
  have hversion : PercentEncodes "1:2".toList "1%3a2".toList :=
    .literal (c := '1') (by decide) (.escaped (c := ':') (e := "%3a".toList) (.cons false false 0x3A .nil)
      (.literal (c := '2') (by decide) hend))
  have hupdate : PercentEncodes "β".toList "%Ce%B2".toList :=
    .escaped (c := 'β') (e := "%Ce%B2".toList) (.cons true false 0xCE (.cons true false 0xB2 .nil)) hend
  have h := parse_uriString_five hscheme hpart hvendor hproduct hversion hupdate
  exact ⟨hscheme, hpart, hvendor, hproduct, hversion, hupdate, h.1, h.2.1.trans (by decide),
    h.2.2.1.trans (by decide), h.2.2.2⟩

end CpeMatch.Cpe
