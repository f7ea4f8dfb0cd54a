import CpeMatch.Json.Shown
import CpeMatch.Log.Record

/-!
**What a store passes over.**

A store takes what it can use of the data it is given.  Whatever it passes over it complains of in the
log.  Of a file that cannot be read the record names the path alone: the words for the reason, which follow it
behind a colon, are those of the operating system or of the reader of documents, and are left out here.

Main definition: `CpeMatch.Store.Complaint`.
-/

set_option autoImplicit false

namespace CpeMatch.Store

/-- What has been passed over. -/
inductive Complaint where
  /-- A file cannot be read, or is no document. -/
  | unreadable (path : Text)
  /-- A value of the given kind stands where an object is expected. -/
  | notObject (kind : String)
  /-- An object has no id. -/
  | noId
  /-- A score is no number. -/
  | badScore (id : Text) (score : Json)
  /-- An item of affected software says nothing. -/
  | badSoftware (id : Text) (item : Json)
  /-- An id has been given before. -/
  | duplicate (id : Json)
  /-- A CPE name says no vendor and product. -/
  | notIndexed (id cpe : Json)
  /-- An item of the document at the given path has been passed over. -/
  | skipped (path : Text)

namespace Complaint

/-- How grave a complaint is. -/
def level : Complaint → Log.Level
  | skipped _ => .debug
  | _ => .warning

/-- The words of a complaint, without the reason for which a file cannot be read. -/
def message : Complaint → Text
  | unreadable path => "Failed to parse " ++ path
  | notObject kind => "Ignoring non-object vulnerability entry: " ++ kind
  | noId => "Ignoring vulnerability entry without an id"
  | badScore id score => id ++ ": invalid CVSS score " ++ score.shown
  | badSoftware id item => id ++ ": ignoring vulnerable software entry " ++ item.shown
  | duplicate id => "Duplicate vulnerability " ++ id.plain ++ "; keeping the last one"
  | notIndexed id cpe => id.plain ++ ": cannot index " ++ cpe.shown
  | skipped path => "Skipped an entry in " ++ path

/-- The record of a complaint. -/
def record (c : Complaint) : Log.Record := Log.Channel.store.record c.level c.message

end Complaint

end CpeMatch.Store
