import CpeMatch.Json.Reader
import CpeMatch.Proofs.Json.Scanning
import CpeMatch.Proofs.Text.Octets

/-!
**A document is read back.**

The octets of a document that can be written to its end are those of its characters, so they are read as these.  The
machine that reads the tokens comes back from the text of a value to where it was, with the value put in its place;
what stands between the items and members is read one after another.  So the document is read as the value that it
was written for, in which only floating-point numbers stand for what their decimals say.

Main definitions:

* `CpeMatch.Json.reread` — what a value is read back as;
* `CpeMatch.Json.Reads` — what reading some characters leads to, whatever follows them.

Main results:

* `CpeMatch.Json.reads_body` — **the text of a value puts the value in its place**;
* `CpeMatch.Json.ofBytes_octets` — **a document is read back**.
-/

set_option autoImplicit false

namespace CpeMatch.Json

/-! ### What is read back -/

mutual

/-- What a value is read back as: a floating-point number as what its text stands for, and all else as it is. -/
def reread : Json → Json
  | .null => .null
  | .bool b => .bool b
  | .number n => rereadNumber n
  | .string s => .string s
  | .array items => .array (rereadItems items)
  | .object members => ofMembers (rereadMembers members)

/-- What the items of an array are read back as. -/
def rereadItems : List Json → List Json
  | [] => []
  | v :: rest => v.reread :: rereadItems rest

/-- What the members of an object are read back as. -/
def rereadMembers : List (Text × Json) → List (Text × Json)
  | [] => []
  | (name, v) :: rest => (name, v.reread) :: rereadMembers rest

end

theorem rereadItems_eq_map (items : List Json) : rereadItems items = items.map reread := by
  induction items with
  | nil => rfl
  | cons v rest ih => rw [rereadItems, ih, List.map_cons]

/-! ### Reading on -/

/-- No bounds on a document. -/
def Limits.unbounded : Limits := ⟨none, none⟩

/-- Where the tokens of some characters lead to. -/
def Reading.on (r : Reading) (fuel : Nat) (cs : List Char) : Except DocumentError Reading :=
  (tokensFrom none fuel cs).foldlM (Reading.take .unbounded) r

/-- Reading the characters `cs` ahead of `rest` leads from `r` to `r'`, whatever is read behind them. -/
def Reads (cs rest : List Char) (r r' : Reading) : Prop :=
  ∀ fuel, (cs ++ rest).length ≤ fuel → ∃ left, rest.length ≤ left ∧ r.on fuel (cs ++ rest) = r'.on left rest

namespace Reads

variable {cs ds rest : List Char} {r r' r'' : Reading}

theorem nil (rest : List Char) (r : Reading) : Reads [] rest r r := fun fuel hfuel => ⟨fuel, hfuel, rfl⟩

theorem append (h : Reads cs (ds ++ rest) r r') (h' : Reads ds rest r' r'') : Reads (cs ++ ds) rest r r'' := by
  intro fuel hfuel
  rw [List.append_assoc] at hfuel ⊢
  obtain ⟨left, hleft, hrun⟩ := h fuel hfuel
  obtain ⟨left', hleft', hrun'⟩ := h' left hleft
  exact ⟨left', hleft', hrun.trans hrun'⟩

/-- Blanks are passed over. -/
theorem gap (h : ∀ c ∈ cs, isGap c = true) (rest : List Char) (r : Reading) : Reads cs rest r r := by
  intro fuel hfuel
  refine ⟨fuel, ?_, ?_⟩
  · rw [List.length_append] at hfuel
    omega
  · rw [Reading.on, Reading.on]
    cases fuel with
    | zero => rfl
    | succ fuel => rw [tokensFrom, tokensFrom, List.dropWhile_append_of_pos h]

/-- A token is taken. -/
theorem token {c : Char} {t : Token} (hgap : isGap c = false) (hread : readToken none (c :: cs ++ rest) = (t, rest))
    (ht : t ≠ .unreadable) (htake : r.take .unbounded t = .ok r') : Reads (c :: cs) rest r r' := by
  intro fuel hfuel
  obtain ⟨fuel, rfl⟩ : ∃ n, fuel = n + 1 := by
    rw [List.cons_append, List.length_cons] at hfuel
    exact ⟨fuel - 1, by omega⟩
  refine ⟨fuel, ?_, ?_⟩
  · rw [List.cons_append, List.length_cons, List.length_append] at hfuel
    omega
  · have hdrop : (c :: cs ++ rest).dropWhile isGap = c :: cs ++ rest :=
      List.dropWhile_cons_of_neg (by rw [hgap]; exact Bool.false_ne_true)
    have htokens : tokensFrom none (fuel + 1) (c :: cs ++ rest) = t :: tokensFrom none fuel rest := by
      rw [tokensFrom, hdrop]
      rw [List.cons_append] at hread ⊢
      simp only [hread]
    rw [Reading.on, htokens, List.foldlM_cons, htake]
    rfl

end Reads

/-! ### The text of a value -/

/-- The text of a value at a level of indentation. -/
def body (level : Nat) (v : Json) : Text := .join (v.pieces level .empty)

/-- The text of items behind others. -/
def itemsBody (level : Nat) (items : List Json) : Text := .join (itemPieces level ("," ++ newLine level) items)

/-- The text of members behind others. -/
def membersBody (level : Nat) (members : List (Text × Json)) : Text :=
  .join (memberPieces level ("," ++ newLine level) members)

/-- What stands before a value is written ahead of it. -/
theorem join_pieces (level : Nat) (lead : Text) (v : Json) : .join (v.pieces level lead) = lead ++ v.body level := by
  cases v with
  | null | number n | string s => simp only [body, pieces, Text.join_cons, Text.empty_append, Text.append_assoc]
  | bool b => cases b <;> simp only [body, pieces, Text.join_cons, Text.empty_append, Text.append_assoc]
  | array items => cases items <;> simp [body, pieces, Text.join_cons, Text.empty_append]
  | object members => cases members <;> simp [body, pieces, Text.join_cons, Text.empty_append]

theorem body_number (level : Nat) (n : Number) : body level (.number n) = numberText n := by
  rw [body, pieces, Text.empty_append]
  exact Text.append_empty _

theorem body_string (level : Nat) (s : Text) : body level (.string s) = literal s := by
  rw [body, pieces, Text.empty_append]
  exact Text.append_empty _

theorem join_itemPieces_cons (level : Nat) (lead : Text) (v : Json) (items : List Json) :
    .join (itemPieces level lead (v :: items)) = lead ++ (v.body level ++ itemsBody level items) := by
  rw [itemPieces, Text.join_append, join_pieces, Text.append_assoc]
  rfl

theorem join_memberPieces_cons (level : Nat) (lead name : Text) (v : Json) (members : List (Text × Json)) :
    .join (memberPieces level lead ((name, v) :: members)) =
      lead ++ (literal name ++ (": " ++ (v.body level ++ membersBody level members))) := by
  rw [memberPieces, Text.join_append, Text.join_cons, Text.join_cons, Text.join_cons, Text.append_assoc,
    Text.append_assoc, Text.append_assoc]
  rfl

theorem body_array_cons (level : Nat) (v : Json) (items : List Json) :
    body level (.array (v :: items)) = "[" ++ (newLine (level + 1) ++ (v.body (level + 1) ++
      (itemsBody (level + 1) items ++ (newLine level ++ "]")))) := by
  have hpieces : (Json.array (v :: items)).pieces level .empty =
      Text.empty :: itemPieces (level + 1) ("[" ++ newLine (level + 1)) (v :: items) ++ [newLine level, "]"] := rfl
  rw [body, hpieces, Text.join_append, Text.join_cons, join_itemPieces_cons, Text.empty_append]
  simp only [Text.append_assoc]
  rfl

theorem body_object_cons (level : Nat) (name : Text) (v : Json) (members : List (Text × Json)) :
    body level (.object ((name, v) :: members)) = "\x7b" ++ (newLine (level + 1) ++ (literal name ++ (": " ++
      (v.body (level + 1) ++ (membersBody (level + 1) members ++ (newLine level ++ "\x7d")))))) := by
  have hpieces : (Json.object ((name, v) :: members)).pieces level .empty =
      Text.empty :: "\x7b" :: memberPieces (level + 1) (newLine (level + 1)) ((name, v) :: members) ++
        [newLine level, "\x7d"] := rfl
  rw [body, hpieces, Text.join_append, Text.join_cons, Text.join_cons, join_memberPieces_cons, Text.empty_append]
  simp only [Text.append_assoc]
  rfl

theorem itemsBody_cons (level : Nat) (v : Json) (items : List Json) :
    itemsBody level (v :: items) = "," ++ (newLine level ++ (v.body level ++ itemsBody level items)) := by
  rw [itemsBody, join_itemPieces_cons, Text.append_assoc]

theorem membersBody_cons (level : Nat) (name : Text) (v : Json) (members : List (Text × Json)) :
    membersBody level ((name, v) :: members) = "," ++ (newLine level ++ (literal name ++ (": " ++
      (v.body level ++ membersBody level members)))) := by
  rw [membersBody, join_memberPieces_cons, Text.append_assoc]

/-! ### Marks and blanks -/

theorem isGap_newLine (level : Nat) : ∀ c ∈ (newLine level).chars, isGap c = true := by
  rw [newLine, Text.chars_ofChars]
  refine List.forall_mem_cons.2 ⟨rfl, fun c hc => ?_⟩
  rw [List.eq_of_mem_replicate hc]
  rfl

/-- What stands behind a value that is not the last. -/
theorem follows_comma (cs : List Char) : Follows (',' :: cs) := by
  rintro _ ⟨⟩
  exact Or.inl rfl

/-- What stands behind the last value of an array or object. -/
theorem follows_newLine (level : Nat) (cs : List Char) : Follows ((newLine level).chars ++ cs) := by
  rw [newLine, Text.chars_ofChars]
  rintro _ ⟨⟩
  exact Or.inr rfl

theorem follows_itemsBody (level : Nat) (items : List Json) {rest : List Char} (hrest : Follows rest) :
    Follows ((itemsBody level items).chars ++ rest) := by
  cases items with
  | nil => exact hrest
  | cons v items =>
      rw [itemsBody_cons, Text.chars_append]
      exact follows_comma _

theorem follows_membersBody (level : Nat) (members : List (Text × Json)) {rest : List Char} (hrest : Follows rest) :
    Follows ((membersBody level members).chars ++ rest) := by
  cases members with
  | nil => exact hrest
  | cons m members =>
      rw [membersBody_cons, Text.chars_append]
      exact follows_comma _

/-! ### Values -/

section

variable {r : Reading} (hr : r.awaited = .value ∨ r.awaited = .itemOrEnd)

include hr

theorem take_scalar (v : Json) : r.take .unbounded (.scalar v) = .ok (r.put v) := by
  rcases r with ⟨frames, awaited, result⟩
  rcases hr with rfl | rfl <;> rfl

theorem take_openArray : r.take .unbounded .openArray = .ok ⟨.array [] :: r.frames, .itemOrEnd, r.result⟩ := by
  rcases r with ⟨frames, awaited, result⟩
  rcases hr with rfl | rfl <;> rfl

theorem take_openObject :
    r.take .unbounded .openObject = .ok ⟨.object [] "" :: r.frames, .nameOrEnd, r.result⟩ := by
  rcases r with ⟨frames, awaited, result⟩
  rcases hr with rfl | rfl <;> rfl

end

/-- The end of an array that has items, the first of which has been read ahead of the others. -/
theorem take_closeArray (r : Reading) (v : Json) (items : List Json) :
    Reading.take .unbounded ⟨.array (items.reverse ++ [v]) :: r.frames, .commaOrEnd, r.result⟩ .closeArray =
      .ok (r.put (.array (v :: items))) := by
  have hclose : Reading.take .unbounded ⟨.array (items.reverse ++ [v]) :: r.frames, .commaOrEnd, r.result⟩ .closeArray =
      .ok (r.put (.array (items.reverse ++ [v]).reverse)) := rfl
  rw [hclose, List.reverse_append, List.reverse_reverse]
  rfl

/-- The end of an object that has members, likewise. -/
theorem take_closeObject (r : Reading) (m : Text × Json) (members : List (Text × Json)) (name : Text) :
    Reading.take .unbounded ⟨.object (members.reverse ++ [m]) name :: r.frames, .commaOrEnd, r.result⟩ .closeObject =
      .ok (r.put (ofMembers (m :: members))) := by
  have hclose : Reading.take .unbounded ⟨.object (members.reverse ++ [m]) name :: r.frames, .commaOrEnd, r.result⟩
      .closeObject = .ok (r.put (ofMembers (members.reverse ++ [m]).reverse)) := rfl
  rw [hclose, List.reverse_append, List.reverse_reverse]
  rfl

theorem reads_openArray {r : Reading} (hr : r.awaited = .value ∨ r.awaited = .itemOrEnd) (rest : List Char) :
    Reads ("[" : Text).chars rest r ⟨.array [] :: r.frames, .itemOrEnd, r.result⟩ :=
  .token rfl rfl nofun (take_openArray hr)

theorem reads_openObject {r : Reading} (hr : r.awaited = .value ∨ r.awaited = .itemOrEnd) (rest : List Char) :
    Reads ("\x7b" : Text).chars rest r ⟨.object [] "" :: r.frames, .nameOrEnd, r.result⟩ :=
  .token rfl rfl nofun (take_openObject hr)

theorem exists_cons_literal (s : Text) : ∃ cs, (literal s).chars = '"' :: cs := ⟨_, rfl⟩

/-- The literal of a text is one token. -/
theorem reads_literal {s : Text} (hs : s.IsEncodable) {r r' : Reading} (rest : List Char)
    (htake : r.take .unbounded (.scalar (.string s)) = .ok r') : Reads (literal s).chars rest r r' := by
  obtain ⟨cs, hcs⟩ := exists_cons_literal s
  have hread := readToken_literal hs rest
  rw [hcs] at hread ⊢
  exact .token rfl hread nofun htake

section

variable {members : List (Text × Json)} {name : Text} {frames : List Frame} {result : Json}

theorem reads_itemComma {items : List Json} (rest : List Char) :
    Reads ("," : Text).chars rest ⟨.array items :: frames, .commaOrEnd, result⟩
      ⟨.array items :: frames, .value, result⟩ := .token rfl rfl nofun rfl

theorem reads_memberComma (rest : List Char) :
    Reads ("," : Text).chars rest ⟨.object members name :: frames, .commaOrEnd, result⟩
      ⟨.object members name :: frames, .name, result⟩ := .token rfl rfl nofun rfl

/-- The name of a member, where one may come. -/
theorem reads_name {s : Text} (hs : s.IsEncodable) {awaited : Awaited}
    (hawaited : awaited = .nameOrEnd ∨ awaited = .name) (rest : List Char) :
    Reads (literal s).chars rest ⟨.object members name :: frames, awaited, result⟩
      ⟨.object members s :: frames, .colon, result⟩ := by
  refine reads_literal hs rest ?_
  rcases hawaited with rfl | rfl <;> rfl

/-- The colon behind it. -/
theorem reads_colon (rest : List Char) :
    Reads (": " : Text).chars rest ⟨.object members name :: frames, .colon, result⟩
      ⟨.object members name :: frames, .value, result⟩ := by
  have hcolon : Reads [':'] ([' '] ++ rest) ⟨.object members name :: frames, .colon, result⟩
      ⟨.object members name :: frames, .value, result⟩ := .token rfl rfl nofun rfl
  exact hcolon.append (.gap (List.forall_mem_singleton.2 rfl) rest _)

end

mutual

/-- **The text of a value puts the value in its place.** -/
theorem reads_body (v : Json) (level : Nat) {r : Reading} {rest : List Char} (hv : (v.body level).IsEncodable)
    (hr : r.awaited = .value ∨ r.awaited = .itemOrEnd) (hrest : Follows rest) :
    Reads (v.body level).chars rest r (r.put v.reread) := by
  cases v with
  | null => exact .token rfl rfl nofun (take_scalar hr .null)
  | bool b =>
      cases b with
      | true => exact .token rfl rfl nofun (take_scalar hr (.bool true))
      | false => exact .token rfl rfl nofun (take_scalar hr (.bool false))
  | number n =>
      obtain ⟨d, ds, hds, hgap, -⟩ := exists_cons_numberText n
      have hread := readToken_numberText n hrest
      rw [body_number, Text.chars_ofString, hds]
      rw [hds] at hread
      exact .token hgap hread nofun (take_scalar hr (rereadNumber n))
  | string s =>
      rw [body_string] at hv ⊢
      exact reads_literal (isEncodable_of_literal hv) rest (take_scalar hr (.string s))
  | array items =>
      cases items with
      | nil => exact (reads_openArray hr _).append (.token rfl rfl nofun rfl)
      | cons v items =>
          rw [body_array_cons] at hv ⊢
          simp only [Text.isEncodable_append] at hv
          obtain ⟨-, -, hfirst, hothers, -⟩ := hv
          simp only [Text.chars_append]
          refine (reads_openArray hr _).append ((Reads.gap (isGap_newLine _) _ _).append ?_)
          refine (reads_body v (level + 1) hfirst (Or.inr rfl) ?_).append ?_
          · simp only [List.append_assoc]
            exact follows_itemsBody _ items (follows_newLine level _)
          refine (reads_itemsBody items (level + 1) hothers ?_).append ((Reads.gap (isGap_newLine _) _ _).append ?_)
          · simp only [List.append_assoc]
            exact follows_newLine level _
          exact .token rfl rfl nofun (take_closeArray r _ _)
  | object members =>
      cases members with
      | nil => exact (reads_openObject hr _).append (.token rfl rfl nofun rfl)
      | cons m members =>
          obtain ⟨name, v⟩ := m
          rw [body_object_cons] at hv ⊢
          simp only [Text.isEncodable_append] at hv
          obtain ⟨-, -, hname, -, hfirst, hothers, -⟩ := hv
          simp only [Text.chars_append]
          refine (reads_openObject hr _).append ((Reads.gap (isGap_newLine _) _ _).append ?_)
          refine (reads_name (isEncodable_of_literal hname) (Or.inl rfl) _).append ((reads_colon _).append ?_)
          refine (reads_body v (level + 1) hfirst (Or.inl rfl) ?_).append ?_
          · simp only [List.append_assoc]
            exact follows_membersBody _ members (follows_newLine level _)
          have hbehind : Follows (((newLine level).chars ++ ("\x7d" : Text).chars) ++ rest) := by
            rw [List.append_assoc]
            exact follows_newLine level _
          obtain ⟨name', hread⟩ := reads_membersBody members (level + 1) hothers hbehind
          refine hread.append ((Reads.gap (isGap_newLine _) _ _).append ?_)
          exact .token rfl rfl nofun (take_closeObject r _ _ _)

/-- Items are put behind those that have been read. -/
theorem reads_itemsBody (items : List Json) (level : Nat) {done : List Json} {frames : List Frame} {result : Json}
    {rest : List Char} (hitems : (itemsBody level items).IsEncodable) (hrest : Follows rest) :
    Reads (itemsBody level items).chars rest ⟨.array done :: frames, .commaOrEnd, result⟩
      ⟨.array ((rereadItems items).reverse ++ done) :: frames, .commaOrEnd, result⟩ := by
  cases items with
  | nil => exact .nil rest _
  | cons v items =>
      rw [itemsBody_cons] at hitems ⊢
      simp only [Text.isEncodable_append] at hitems
      obtain ⟨-, -, hfirst, hothers⟩ := hitems
      simp only [Text.chars_append]
      refine (reads_itemComma _).append ((Reads.gap (isGap_newLine _) _ _).append ?_)
      refine (reads_body v level hfirst (Or.inl rfl) (follows_itemsBody level items hrest)).append ?_
      rw [rereadItems, List.reverse_cons, List.append_assoc]
      exact reads_itemsBody items level hothers hrest

/-- Members are put behind those that have been read. -/
theorem reads_membersBody (members : List (Text × Json)) (level : Nat) {done : List (Text × Json)} {name : Text}
    {frames : List Frame} {result : Json} {rest : List Char} (hmembers : (membersBody level members).IsEncodable)
    (hrest : Follows rest) :
    ∃ name', Reads (membersBody level members).chars rest ⟨.object done name :: frames, .commaOrEnd, result⟩
      ⟨.object ((rereadMembers members).reverse ++ done) name' :: frames, .commaOrEnd, result⟩ := by
  cases members with
  | nil => exact ⟨name, .nil rest _⟩
  | cons m members =>
      obtain ⟨key, v⟩ := m
      rw [membersBody_cons] at hmembers ⊢
      simp only [Text.isEncodable_append] at hmembers
      obtain ⟨-, -, hkey, -, hfirst, hothers⟩ := hmembers
      obtain ⟨name', hread⟩ := reads_membersBody members level hothers hrest
      refine ⟨name', ?_⟩
      simp only [Text.chars_append]
      refine (reads_memberComma _).append ((Reads.gap (isGap_newLine _) _ _).append ?_)
      refine (reads_name (isEncodable_of_literal hkey) (Or.inr rfl) _).append ((reads_colon _).append ?_)
      refine (reads_body v level hfirst (Or.inl rfl) (follows_membersBody level members hrest)).append ?_
      rw [rereadMembers, List.reverse_cons, List.append_assoc]
      exact hread

end

/-! ### Documents -/

/-- The octets of pieces that have all been written are those of their characters. -/
theorem octetsOf_eq_of_none {ps : List Text} (h : (octetsOf ps).2 = none) :
    (Text.join ps).IsEncodable ∧ (octetsOf ps).1 = (Text.join ps).chars.flatMap String.utf8EncodeChar := by
  induction ps with
  | nil => exact ⟨nofun, rfl⟩
  | cons p ps ih =>
      rw [octetsOf, Text.utf8Encode?] at h ⊢
      cases hp : p.unencodable? with
      | some u =>
          rw [hp] at h
          cases h
      | none =>
          rw [hp] at h
          obtain ⟨hencodable, hbytes⟩ := ih h
          rw [Text.join_cons, Text.isEncodable_append, Text.chars_append, List.flatMap_append, ← hbytes,
            Text.flatMap_chars]
          exact ⟨⟨Text.unencodable?_eq_none_iff.1 hp, hencodable⟩, rfl⟩

/-- A document begins with no byte-order mark. -/
theorem exists_cons_body (v : Json) (level : Nat) : ∃ d ds, (v.body level).chars = d :: ds ∧ d ≠ '\uFEFF' := by
  cases v with
  | null => exact ⟨_, _, rfl, by decide⟩
  | bool b =>
      cases b with
      | true => exact ⟨_, _, rfl, by decide⟩
      | false => exact ⟨_, _, rfl, by decide⟩
  | number n =>
      obtain ⟨d, ds, hds, -, hd⟩ := exists_cons_numberText n
      exact ⟨d, ds, by rw [body_number, Text.chars_ofString, hds], hd⟩
  | string s =>
      obtain ⟨cs, hcs⟩ := exists_cons_literal s
      exact ⟨'"', cs, by rw [body_string, hcs], by decide⟩
  | array items =>
      cases items with
      | nil => exact ⟨_, _, rfl, by decide⟩
      | cons v items => exact ⟨'[', _, by rw [body_array_cons, Text.chars_append]; rfl, by decide⟩
  | object members =>
      cases members with
      | nil => exact ⟨_, _, rfl, by decide⟩
      | cons m members => exact ⟨'\x7b', _, by rw [body_object_cons, Text.chars_append]; rfl, by decide⟩

theorem document_eq_body (v : Json) : v.document = v.body 0 := rfl

/-- The octets of a document that can be written to its end are those of its characters. -/
theorem octets_eq_of_none {v : Json} (h : v.octets.2 = none) :
    v.document.IsEncodable ∧ v.octets.1 = v.document.chars.flatMap String.utf8EncodeChar := octetsOf_eq_of_none h

/-- **A document is read back** if it can be written to its end. -/
theorem ofBytes_octets {v : Json} (h : v.octets.2 = none) : ofBytes .unbounded v.octets.1 = .ok v.reread := by
  obtain ⟨hencodable, hbytes⟩ := octets_eq_of_none h
  rw [document_eq_body] at hencodable hbytes
  obtain ⟨d, ds, hcons, hd⟩ := exists_cons_body v 0
  have hmark : (v.body 0).chars.head? ≠ some '\uFEFF' := by
    rw [hcons]
    exact fun h => hd (Option.some.inj h)
  have hstart : Reading.start.awaited = .value ∨ Reading.start.awaited = .itemOrEnd := Or.inl rfl
  obtain ⟨left, -, hread⟩ := reads_body v 0 hencodable hstart follows_nil (v.body 0).chars.length
    (Nat.le_of_eq (by rw [List.append_nil]))
  have hnothing : tokensFrom none left [] = [] := by cases left <;> rfl
  rw [List.append_nil, Reading.on, Reading.on, hnothing] at hread
  have hlimits : Limits.unbounded.integerDigits = none := rfl
  rw [hbytes, ofBytes, Text.utf8Decode?_encode]
  simp only [parse, if_neg hmark, tokens, hlimits]
  rw [hread]
  rfl

end CpeMatch.Json
