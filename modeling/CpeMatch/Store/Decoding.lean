import CpeMatch.Number.Numeral
import CpeMatch.Store.Complaint
import CpeMatch.Vulnerability

/-!
**Vulnerabilities from data.**

A vulnerability is an object with an id; every other member is optional, and one that is of no use costs
only itself.

Main definitions:

* `CpeMatch.Store.decodeScore` — a score from a number, a truth value or a numeral;
* `CpeMatch.Store.decodeReferences` — references from texts and objects with an address;
* `CpeMatch.Store.decodeSoftware` — affected software from CPE names and objects with one;
* `CpeMatch.Store.decode` — a vulnerability.
-/

set_option autoImplicit false

namespace CpeMatch.Store

/-- The score that a value gives, `null` with a complaint where it gives none.  An integer beyond the range
of scores is a fault. -/
def decodeScore (id : Text) (v : Json) : Except Fault (Json × List Complaint) :=
  match v with
  | .null => .ok (.null, [])
  | .bool b => .ok (.float (if b then 1 else 0), [])
  | .number n => match n.toFloat? with
    | some x => .ok (.float x, [])
    | none => .error .beyondFloats
  | .string s => match Number.readNumeral? s with
    | some x => .ok (.float x, [])
    | none => .ok (.null, [.badScore id v])
  | .array _ | .object _ => .ok (.null, [.badScore id v])

/-- The reference that a value gives: a text is an address, an object needs one. -/
def decodeReference? (v : Json) : Option Reference :=
  match v with
  | .string s => some ⟨.string Text.empty, .string s, .string s⟩
  | .object _ =>
    let url := v.getD "url"
    if url.isTruthy then
      some ⟨(v.get? "source").getD (.string Text.empty), (v.getD "name").orElse url, url⟩
    else none
  | _ => none

/-- The references that a value gives. -/
def decodeReferences (v : Json) : List Reference := v.items.filterMap decodeReference?

/-- The mark that earlier versions are affected, from a value: a text, or nothing. -/
def decodePrevious : Json → Json
  | .null => .null
  | .bool b => if b then .string "1" else .null
  | v => .string v.plain

/-- The row of affected software that a value gives. -/
def decodeRecord? (id : Text) (v : Json) : Option SoftwareRecord :=
  match v with
  | .string cpe => some ⟨.string id, .string cpe, .null⟩
  | .object _ => (v.getD "cpe").text?.map fun cpe =>
      ⟨.string id, .string cpe, decodePrevious (v.getD "previous_version")⟩
  | _ => none

/-- The rows of affected software that a value gives, with a complaint for each item that gives
none. -/
def decodeSoftware (id : Text) (v : Json) : List SoftwareRecord × List Complaint :=
  (v.items.filterMap (decodeRecord? id),
   v.items.filterMap fun item => match decodeRecord? id item with
     | some _ => none
     | none => some (.badSoftware id item))

/-- The id that an object gives: a text that is not empty. -/
def decodeId? (v : Json) : Option Text :=
  match v.getD "id" with
  | .string id => if id = Text.empty then none else some id
  | _ => none

/-- The vulnerability that a value gives, with what has been passed over. -/
def decode (v : Json) : Except Fault (Option Vulnerability × List Complaint) :=
  match v with
  | .object _ =>
    match decodeId? v with
    | none => .ok (none, [.noId])
    | some id => do
      let (score, complaints) ← decodeScore id (v.getD "cvss_score")
      let (software, further) := decodeSoftware id (v.getD "vulnerable_software")
      let vulnerability ← Vulnerability.make
        { id := .string id
          description := v.getD "description"
          weakness := v.getD "cwe"
          score
          vector := v.getD "cvss_vector"
          references := decodeReferences (v.getD "references")
          software
          found := none }
      return (some vulnerability, complaints ++ further)
  | _ => .ok (none, [.notObject v.kind])

end CpeMatch.Store
