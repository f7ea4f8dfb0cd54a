import CpeMatch.Json.Reader
import CpeMatch.Text.Quoted
import CpeMatch.Text.Utf8

/-!
**Faults.**

What can go wrong, by its cause.  Most of it is noted in the log and passed over; a fault is what ends
an operation.

Main definitions:

* `CpeMatch.FileFault`, `CpeMatch.Fault` — the causes;
* `CpeMatch.FileFault.message`, `CpeMatch.Fault.message` — the words for each of them;
* `CpeMatch.Fault.isForeseen` — whether a fault is reported where it is handled, or ends everything.
-/

set_option autoImplicit false

namespace CpeMatch

/-- Why a file cannot be opened. -/
inductive FileFault where
  | missing
  | notFolder
  | isFolder
  /-- A file stands where a folder is to be made. -/
  | occupied
  | nameTooLong
  /-- The path holds a null character. -/
  | nullCharacter
  /-- The path has no octets. -/
  | unencodable (cause : Text.Unencodable)
  deriving DecidableEq

namespace FileFault

/-- A fault that the operating system reports, by its number and its words. -/
def systemMessage (number : Nat) (words : String) (path : Text) : Text :=
  "[Errno " ++ toString number ++ "] " ++ words ++ ": " ++ Text.quoted path

/-- The words for a fault of the file at a path. -/
def message (path : Text) : FileFault → Text
  | missing => systemMessage 2 "No such file or directory" path
  | notFolder => systemMessage 20 "Not a directory" path
  | isFolder => systemMessage 21 "Is a directory" path
  | occupied => systemMessage 17 "File exists" path
  | nameTooLong => systemMessage 36 "File name too long" path
  | nullCharacter => "embedded null byte"
  | unencodable cause => cause.message

/-- Whether the operating system reports the fault; a path with another one does not get that far. -/
def isSystem : FileFault → Bool
  | missing | notFolder | isFolder | occupied | nameTooLong => true
  | nullCharacter | unencodable _ => false

end FileFault

/-- Why an operation fails. -/
inductive Fault where
  /-- A vulnerability or a record of affected software has no id. -/
  | emptyId
  /-- There is no database at the path. -/
  | noDatabase (path : Text)
  /-- Results are to be saved and no path is given. -/
  | noOutputPath
  /-- A file cannot be opened. -/
  | file (cause : FileFault) (path : Text)
  /-- A file pattern begins at the root of the file system. -/
  | rootedPattern
  /-- A file pattern has a double asterisk inside a component. -/
  | badPattern
  /-- A file pattern has too many components, or the folders that it is looked for in are nested too
  deep. -/
  | deepSearch
  /-- Too many folders are to be made inside one another at once. -/
  | deepFolder
  /-- An integer is beyond the range of floating-point numbers. -/
  | beyondFloats
  /-- An integer has too many digits to be written. -/
  | longNumeral
  /-- An integer in a document has too many digits. -/
  | longInteger (digits : Nat)
  /-- A document is nested too deep, in an object or in an array. -/
  | deepDocument (object : Bool)
  /-- A value stands where only a text can. -/
  | notText
  /-- Values that have no order are compared. -/
  | unordered
  /-- A value stands where text is to be shown, or something with a length. -/
  | notShowable
  /-- A text stands where a number is to be shown with decimals. -/
  | textForDecimals
  /-- An array or object stands where something is looked up. -/
  | noKey
  /-- A threshold is asked for by a name that no level has. -/
  | unknownLevel (name : Text)
  /-- A value stands where the name of a logger or a level is expected. -/
  | notLevel
  /-- A document holds half of a surrogate pair, which cannot be written to a file. -/
  | unencodable (cause : Text.Unencodable)
  /-- A timed step fails with the given words. -/
  | step (message : Text)
  deriving DecidableEq

namespace Fault

/-- The fault of a document that is not passed over, if it is one. -/
def ofDocumentError? : Json.DocumentError → Option Fault
  | .malformed => none
  | .longInteger digits => some (longInteger digits)
  | .tooDeep object => some (deepDocument object)

/-- The words for a fault. -/
def message : Fault → Text
  | emptyId => "Vulnerability ID cannot be empty"
  | noDatabase path => "Database path does not exist: " ++ path
  | noOutputPath => "No output file specified"
  | file cause path => cause.message path
  | rootedPattern => "Non-relative patterns are unsupported"
  | badPattern => "Invalid pattern: '**' can only be an entire path component"
  | deepSearch => "maximum recursion depth exceeded"
  | deepFolder => "maximum recursion depth exceeded while calling a Python object"
  | beyondFloats => "int too large to convert to float"
  | longNumeral =>
    "Exceeds the limit (" ++ toString Json.integerDigits ++
      " digits) for integer string conversion; use sys.set_int_max_str_digits() to increase the limit"
  | longInteger digits =>
    "Exceeds the limit (" ++ toString Json.integerDigits ++
      " digits) for integer string conversion: value has " ++ toString digits ++
      " digits; use sys.set_int_max_str_digits() to increase the limit"
  | deepDocument object =>
    "maximum recursion depth exceeded while decoding a JSON " ++
      (if object then "object" else "array") ++ " from a unicode string"
  | notText => "a text is expected"
  | unordered => "the values have no order"
  | notShowable => "a text is expected to be shown"
  | textForDecimals => "Unknown format code 'f' for object of type 'str'"
  | noKey => "an array or object cannot be looked up"
  | unknownLevel name => "Unknown level: " ++ Text.quoted name
  | notLevel => "the name of a logger or a level is expected"
  | unencodable cause => cause.message
  | step message => message

/-- Whether the command line reports the fault, and a timed block fails with it; any other ends the whole
command or all timed work. -/
def isForeseen : Fault → Bool
  | emptyId | noDatabase _ | noOutputPath | file _ _ | badPattern | longNumeral | longInteger _
  | textForDecimals | unknownLevel _ | unencodable _ | step _ => true
  | rootedPattern | deepSearch | deepFolder | beyondFloats | deepDocument _ | notText | unordered
  | notShowable | noKey | notLevel => false

end Fault

/-! ### Steps that may fail -/

section

variable {ε α β : Type} {x : Except ε α} {b : β}

/-- If one step after another succeeds, each of them does. -/
theorem exists_of_bind_eq_ok {f : α → Except ε β} (h : x >>= f = .ok b) : ∃ a, x = .ok a ∧ f a = .ok b := by
  cases x with
  | error e => cases h
  | ok a => exact ⟨a, rfl, h⟩

theorem exists_of_map_eq_ok {f : α → β} (h : x.map f = .ok b) : ∃ a, x = .ok a ∧ f a = b := by
  cases x with
  | error e => cases h
  | ok a => exact ⟨a, rfl, Except.ok.inj h⟩

end

end CpeMatch
