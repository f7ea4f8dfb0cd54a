import CpeMatch.Files.Path

/-!
**Reading a command line.**

A command line names a command, after which options and arguments stand in any order.  Short options of
one letter can be written together, and the value of an option follows it, in the same word or the
next; two hyphens alone end the options.  Asking for help wins over arguments that are missing, but not
over options that are wrong.

Commands start from a request that has been read.  The reader of words stands for the library that reads a
command line, and only the program that is run by hand uses it.

Main definitions:

* `CpeMatch.Command.Request` — what a command line asks for;
* `CpeMatch.Command.Parsed`, `CpeMatch.Command.parseWords` — options and arguments of a command;
* `CpeMatch.Command.Name` — the commands, and the words for them;
* `CpeMatch.Command.Request.ofWords` — reading a command line.
-/

set_option autoImplicit false

namespace CpeMatch.Command

/-- The options of a lookup. -/
structure CheckOptions where
  cpe : Text
  database : Text
  output : Option Text
  verbose : Bool
  performance : Bool
  sortInput : Bool
  failOnMatch : Bool
  deriving DecidableEq

/-- What a command line asks for. -/
inductive Request where
  | check (options : CheckOptions)
  | compare (left right : Text)
  | products (database : Text) (vendor : Option Text)
  | stats (database : Text)
  | info
  | help
  /-- The command line is wrong. -/
  | misuse
  deriving DecidableEq

/-- An option of a command: its long name, its letter if it has one, and whether a value follows. -/
structure OptionSpec where
  name : String
  letter : Option Char
  takesValue : Bool

/-- Options and arguments of a command, the latest first. -/
structure Parsed where
  values : List (String × Text)
  flags : List String
  arguments : List Text

namespace Parsed

/-- Before the first word. -/
def empty : Parsed := ⟨[], [], []⟩

/-- The last value given for an option. -/
def value? (p : Parsed) (name : String) : Option Text := p.values.lookup name

/-- Whether an option has been given. -/
def has (p : Parsed) (name : String) : Bool := p.flags.contains name

end Parsed

/-- What is to be done with the word after an option. -/
inductive Next where
  /-- It is a word of its own. -/
  | word
  /-- It is the value of the named option. -/
  | valueOf (name : String)

/-- Reads letters that stand together after a hyphen. -/
def parseLetters (specs : List OptionSpec) (p : Parsed) : List CodePoint → Option (Parsed × Next)
  | [] => some (p, .word)
  | c :: cs =>
    match specs.find? fun spec => spec.letter.any fun letter => c = .char letter with
    | none => none
    | some spec =>
      if spec.takesValue then
        if cs.isEmpty then some (p, .valueOf spec.name)
        else some ({ p with values := (spec.name, ⟨cs⟩) :: p.values }, .word)
      else parseLetters specs { p with flags := spec.name :: p.flags } cs

/-- Reads the name of an option, after its two hyphens, and the value after an equals sign. -/
def parseLong (specs : List OptionSpec) (p : Parsed) (cs : List CodePoint) : Option (Parsed × Next) :=
  let isName (c : CodePoint) : Bool := c ≠ '='
  let name : Text := ⟨cs.takeWhile isName⟩
  match specs.find? (fun spec => spec.name = name), cs.dropWhile isName with
  | none, _ => none
  | some spec, [] =>
    if spec.takesValue then some (p, .valueOf spec.name)
    else some ({ p with flags := spec.name :: p.flags }, .word)
  | some spec, _ :: value =>
    if spec.takesValue then some ({ p with values := (spec.name, ⟨value⟩) :: p.values }, .word)
    else none

/-- Reads the words after a command.  With `mixed`, options may stand after arguments. -/
def parseWords (specs : List OptionSpec) (mixed : Bool) (p : Parsed) :
    Next → List Text → Option Parsed
  | .word, [] => some p
  | .valueOf _, [] => none
  | .valueOf name, w :: rest =>
    parseWords specs mixed { p with values := (name, w) :: p.values } .word rest
  | .word, w :: rest =>
    match w.points with
    | [.char '-', .char '-'] => some { p with arguments := rest.reverse ++ p.arguments }
    | .char '-' :: .char '-' :: cs => match parseLong specs p cs with
      | some (p, next) => parseWords specs mixed p next rest
      | none => none
    | .char '-' :: c :: cs => match parseLetters specs p (c :: cs) with
      | some (p, next) => parseWords specs mixed p next rest
      | none => none
    | _ =>
      if mixed then parseWords specs mixed { p with arguments := w :: p.arguments } .word rest
      else some { p with arguments := rest.reverse ++ w :: p.arguments }

/-- The option that asks for help. -/
def helpSpec : OptionSpec := ⟨"help", none, false⟩

/-- The option that says where the database is. -/
def databaseSpec : OptionSpec := ⟨"database", some 'd', true⟩

/-- The options of a lookup. -/
def checkSpecs : List OptionSpec :=
  [databaseSpec, ⟨"output", some 'o', true⟩, ⟨"verbose", some 'v', false⟩,
   ⟨"performance", none, false⟩, ⟨"sort-input", none, false⟩, ⟨"fail-on-match", none, false⟩,
   helpSpec]

/-- The environment variable that says where the database is. -/
def databaseVariable : String := "CPESHIELD_DATABASE"

/-- The commands. -/
inductive Name where
  | check
  | compare
  | products
  | stats
  | info
  deriving DecidableEq

namespace Name

/-- The word for a command. -/
def word : Name → String
  | check => "check"
  | compare => "compare"
  | products => "products"
  | stats => "stats"
  | info => "info"

/-- The command that a word names. -/
def ofWord? (w : Text) : Option Name :=
  [check, compare, products, stats, info].find? fun command => command.word = w

/-- The options of a command. -/
def specs : Name → List OptionSpec
  | check => checkSpecs
  | compare | info => [helpSpec]
  | products => [databaseSpec, ⟨"vendor", none, true⟩, helpSpec]
  | stats => [databaseSpec, helpSpec]

end Name

namespace Request

/-- Where the database of a request is. -/
def database? : Request → Option Text
  | check options => some options.database
  | products database _ | stats database => some database
  | compare _ _ | info | help | misuse => none

/-- Where the results of a request are to be saved. -/
def output? : Request → Option Text
  | check options => options.output
  | _ => none

/-- The database that is asked for: by an option, else by the environment, where an empty text is as
good as none. -/
def databaseOf (environment : Option Text) (p : Parsed) : Option Text :=
  match p.value? "database" with
  | some path => some path
  | none => environment.filter (· ≠ Text.empty)

/-- Whether a path can be handed to the operating system; one that is too long can. -/
def isPath (path : Text) : Bool :=
  match (Files.Path.parse path).flaw? with
  | some cause => cause.isSystem
  | none => true

/-- Whether the paths of a request can be handed to the operating system. -/
def hasPaths (r : Request) : Bool := r.database?.all isPath && r.output?.all isPath

/-- The request of a command, from its options and arguments, whatever its paths are. -/
def ofArguments (environment : Option Text) (command : Name) (p : Parsed) : Request :=
  match command, p.arguments.reverse, databaseOf environment p with
  | .check, [cpe], some database => .check
      { cpe
        database
        output := p.value? "output"
        verbose := p.has "verbose"
        performance := p.has "performance"
        sortInput := p.has "sort-input"
        failOnMatch := p.has "fail-on-match" }
  | .compare, [left, right], _ => .compare left right
  | .products, [], some database => .products database (p.value? "vendor")
  | .stats, [], some database => .stats database
  | .info, [], _ => .info
  | _, _, _ => .misuse

/-- The request of a command, from its options and arguments. -/
def ofParsed (environment : Option Text) (command : Name) (p : Parsed) : Request :=
  if p.has "help" then .help else
    let request := ofArguments environment command p
    if request.hasPaths then request else .misuse

/-- The options ahead of the command; nothing if they are wrong. -/
def general? (words : List Text) : Option Parsed :=
  parseWords [helpSpec] false Parsed.empty .word words

/-- The request of words that name no command; they may still ask for help. -/
def ofUnknown (words : List Text) : Request :=
  if (general? words).any (·.has "help") then .help else .misuse

/-- Reads a command line.  `environment` is where the database is if no option says so. -/
def ofWords (environment : Option Text) (words : List Text) : Request :=
  match general? words with
  | none => .misuse
  | some p =>
    if p.has "help" then .help else
      match p.arguments.reverse with
      | [] => .misuse
      | word :: rest =>
        match Name.ofWord? word with
        | none => ofUnknown (word :: rest)
        | some command => match parseWords command.specs true Parsed.empty .word rest with
          | none => .misuse
          | some p => ofParsed environment command p

end Request

end CpeMatch.Command
