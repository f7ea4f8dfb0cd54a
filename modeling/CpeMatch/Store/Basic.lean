import Std.Data.TreeMap
import Std.Data.TreeSet
import CpeMatch.Files.Path
import CpeMatch.Json.Key
import CpeMatch.Store.Decoding
import CpeMatch.Timing.Monitor

/-!
**The store.**

A store holds vulnerabilities by their ids and an index of affected software by vendor and product.  A
vulnerability that is added under an id already held replaces the old one, whose rows leave the index.

Main definitions:

* `CpeMatch.Store` — the type, and `CpeMatch.Store.Posting`, a row of its index;
* `CpeMatch.Store.add` — adding a vulnerability;
* `CpeMatch.Store.Absorbed`, `CpeMatch.Store.absorbAll` — taking data in;
* `CpeMatch.Store.ofRecords` — a store of given data;
* `CpeMatch.Store.get?`, `CpeMatch.Store.records`, `CpeMatch.Store.cpes`, `CpeMatch.Store.products`,
  `CpeMatch.Store.stats` — what the store says.
-/

set_option autoImplicit false

namespace CpeMatch

namespace Store

/-- Where a store finds its data. -/
structure Config where
  path : Files.Path
  pattern : Text

/-- The file pattern of a store that is given none. -/
def defaultPattern : Text := "*.json"

/-- A row of the index. -/
structure Posting where
  vendor : Text
  product : Text
  record : SoftwareRecord

/-- Vendor and product of a row. -/
def Posting.key (p : Posting) : Text × Text := (p.vendor, p.product)

end Store

/-- A store of vulnerabilities. -/
structure Store where
  config : Option Store.Config
  held : Std.TreeMap Json.Key Vulnerability
  /-- The rows of the index in the order in which they arrived. -/
  index : Array Store.Posting
  loaded : Bool
  monitor : Timing.Monitor Float

namespace Store

/-- The store with nothing in it; one without a place for its data counts as loaded. -/
def empty (config : Option Config) : Store :=
  ⟨config, {}, #[], config.isNone, Timing.Monitor.fresh true⟩

/-! ### Taking data in -/

/-- A store that has taken data in, with what was passed over, and the fault that ended it. -/
structure Absorbed where
  store : Store
  complaints : List Complaint
  fault : Option Fault

/-- What has come of indexing rows: the rows of the index, what was passed over, and the fault that ended
it. -/
structure Indexed where
  postings : List Posting
  complaints : List Complaint
  fault : Option Fault

/-- The row of the index for a row of affected software, if its CPE name says vendor and product. -/
def posting? (r : SoftwareRecord) : Except Fault (Option Posting) :=
  (Cpe.ofJson r.cpe).map fun c => if c.isValid then some ⟨c.vendor, c.product, r⟩ else none

/-- Indexes the rows of the vulnerability of an id, up to the first whose CPE name is no text. -/
def indexRows (id : Json) : List SoftwareRecord → Indexed
  | [] => ⟨[], [], none⟩
  | r :: rest =>
    match posting? r with
    | .error f => ⟨[], [], some f⟩
    | .ok (some p) =>
      let others := indexRows id rest
      { others with postings := p :: others.postings }
    | .ok none =>
      let others := indexRows id rest
      { others with complaints := .notIndexed id r.cpe :: others.complaints }

/-- The index without the rows of an id. -/
def withoutRows (index : Array Posting) (id : Json) : Array Posting :=
  index.filter fun p => !(p.record.id == id)

/-- Adds a vulnerability, or puts it in the place of the one held under its id. -/
def add (s : Store) (v : Vulnerability) : Absorbed :=
  match v.id.key? with
  | none => ⟨s, [], some .noKey⟩
  | some key =>
    let rows := indexRows v.id v.software
    let replaced := s.held.contains key
    let index := if replaced then withoutRows s.index v.id else s.index
    { store :=
        { s with held := s.held.insert key v, index := index ++ rows.postings.toArray }
      complaints := (if replaced then [.duplicate v.id] else []) ++ rows.complaints
      fault := rows.fault }

/-- Takes in the vulnerability that a value gives; `origin` is the document it comes from. -/
def absorb (origin : Option Text) (s : Store) (data : Json) : Absorbed :=
  match decode data with
  | .error f => ⟨s, [], some f⟩
  | .ok (some v, complaints) =>
    let added := s.add v
    { added with complaints := complaints ++ added.complaints }
  | .ok (none, complaints) =>
    ⟨s, complaints ++ (origin.map Complaint.skipped).toList, none⟩

/-- Takes in the values of a list, up to the first that is a fault. -/
def absorbAll (origin : Option Text) (s : Store) : List Json → Absorbed
  | [] => ⟨s, [], none⟩
  | data :: rest =>
    let first := absorb origin s data
    match first.fault with
    | some _ => first
    | none =>
      let others := absorbAll origin first.store rest
      ⟨others.store, first.complaints ++ others.complaints, others.fault⟩

/-- A store of given data. -/
def ofRecords (data : List Json) : Absorbed := absorbAll none (empty none) data

/-! ### What the store says -/

/-- The vulnerability held under an id, which may not be an array or object. -/
def get? (s : Store) (id : Json) : Except Fault (Option Vulnerability) :=
  match id.key? with
  | some key => .ok s.held[key]?
  | none => .error .noKey

/-- The rows of a product, in any letter case, in the order in which they arrived. -/
def postings (s : Store) (vendor product : Text) : List SoftwareRecord :=
  (s.index.toList.filter fun p => p.key = (Text.lower vendor, Text.lower product)).map (·.record)

/-- The rows of a product in ascending order of ids, if these have an order. -/
def records (s : Store) (vendor product : Text) : Except Fault (List SoftwareRecord) :=
  match sortById? (·.id) (s.postings vendor product) with
  | some rows => .ok rows
  | none => .error .unordered

/-- The CPE names of a product, each once, in ascending order. -/
def cpes (s : Store) (vendor product : Text) : List Text :=
  (Std.TreeSet.ofList ((s.postings vendor product).filterMap (·.cpe.text?))).toList

/-- The order of products: by vendor, then by name. -/
def productOrder : Text × Text → Text × Text → Ordering :=
  compareLex (compareOn (·.1)) (compareOn (·.2))

/-- Vendor and product of every row, each pair once, in ascending order. -/
def products (s : Store) : List (Text × Text) :=
  (Std.TreeSet.ofList (s.index.toList.map (·.key)) productOrder).toList

/-- Whether there is any affected software. -/
def hasData (s : Store) : Bool := !s.products.isEmpty

/-- The size of a store. -/
structure Stats where
  vulnerabilities : Nat
  products : Nat
  entries : Nat

/-- The size of the store. -/
def stats (s : Store) : Stats := ⟨s.held.size, s.products.length, s.index.size⟩

/-- The mean number of rows of a product; an integer zero where there is none. -/
def Stats.average (t : Stats) : Number :=
  if t.products = 0 then .whole 0 else .binary (Number.nearest false t.entries t.products)

end Store

end CpeMatch
