import LineShell.Configuration.Locations
import LineShell.Error.ShellError
import LineShell.Text.Quoted
import LineShell.Toml.Document
/-!
# Configuration

Eight settings, each with a default. A document sets them by keys of its outermost table; other
keys are ignored. A key with a value of the wrong type spoils the whole document, and so does a
negative count.

`Configuration.ofText` makes settings of a text, with any reader of documents. Each setting is read
by itself (`ofDocument?`), so that it is the document's value where the key is present and the
default where it is not. A document that makes no settings gets a complaint: about its form, or
about the first value of a wrong type in it.
-/

namespace LineShell

/-- The settings of a shell. -/
structure Configuration where
  /-- A fixed prompt; without one the prompt names user and directory. -/
  prompt : Option Text
  maxArgs : Nat
  historyFile : Bytes
  historySize : Nat
  logLevel : Text
  logFile : Bytes
  greeting : Bool
  /-- Lines to run before the first line is read. -/
  startup : List Text
  deriving DecidableEq, Repr

namespace Configuration

/-- The settings without a document. -/
def standard (directories : Directories) (env : Environment) : Configuration :=
  let data := dataDirectory directories env
  { prompt := none
    maxArgs := 100
    historyFile := Path.join data (bytesOf "history")
    historySize := 1000
    logLevel := Text.lit "warn"
    logFile := Path.join data (bytesOf "bosh.log")
    greeting := true
    startup := [] }

/-! ### Settings by type -/

/-- A text. -/
def text? : Toml.Item → Option Text
  | .value (.string t) => some t
  | _ => none

/-- A path. -/
def path? (item : Toml.Item) : Option Bytes := (text? item).map Text.bytes

/-- A count, which is not negative. -/
def count? : Toml.Item → Option Nat
  | .value (.integer (.ofNat n)) => some n
  | _ => none

/-- A truth value. -/
def flag? : Toml.Item → Option Bool
  | .value (.boolean b) => some b
  | _ => none

/-- A text among the items of an array. -/
def itemText? : Toml.Value → Option Text
  | .string t => some t
  | _ => none

/-- A list of texts. -/
def texts? : Toml.Item → Option (List Text)
  | .value (.array items) => items.mapM (fun item => itemText? item.2)
  | _ => none

/-- A setting: the default when the key is absent, nothing when it has a value of another type. -/
def setting? {α : Type} (read : Toml.Item → Option α) (default : α) (d : Toml.Document)
    (key : String) : Option α :=
  match d.get? key.toList with
  | none => some default
  | some item => read item

/-- The settings that a document makes. -/
def ofDocument? (base : Configuration) (d : Toml.Document) : Option Configuration := do
  let prompt ← setting? (fun i => (text? i).map some) base.prompt d "prompt"
  let maxArgs ← setting? count? base.maxArgs d "max_args"
  let historyFile ← setting? path? base.historyFile d "history_file"
  let historySize ← setting? count? base.historySize d "history_size"
  let logLevel ← setting? text? base.logLevel d "log_level"
  let logFile ← setting? path? base.logFile d "log_file"
  let greeting ← setting? flag? base.greeting d "greeting"
  let startup ← setting? texts? base.startup d "startup"
  some ⟨prompt, maxArgs, historyFile, historySize, logLevel, logFile, greeting, startup⟩

/-! ### Values of a wrong type -/

/-- How a value is shown where another one was expected. -/
def shownValue : Toml.Value → Text
  | .string t => Text.lit "string " ++ Text.Quoted.encode t
  | .integer n =>
    let sign := if n < 0 then ['-'] else []
    Text.lit "integer " ++ ['\x60'] ++ sign ++ Text.ofNat n.natAbs ++ ['\x60']
  | .decimal d => Text.lit "floating point " ++ ['\x60'] ++ d.shown ++ ['\x60']
  | .boolean b =>
    Text.lit "boolean " ++ ['\x60'] ++ Text.lit (if b then "true" else "false") ++ ['\x60']
  | .dateTime | .table _ => Text.lit "map"
  | .array _ => Text.lit "sequence"

/-- How an item of the outermost table is shown where another one was expected. -/
def shownItem : Toml.Item → Text
  | .value v => shownValue v
  | .table .. => Text.lit "map"
  | .tables .. => Text.lit "sequence"

/-- What is wrong with something that is no `expected` thing. -/
def mistyped (expected : String) (shown : Text) : Text :=
  Text.lit "invalid type: " ++ shown ++ Text.lit ", expected " ++ expected.toList

/-- What is wrong with a count. -/
def countMistyped : Toml.Item → Text
  | .value (.integer n) =>
    Text.lit "invalid value: " ++ shownValue (.integer n) ++ Text.lit ", expected usize"
  | item => mistyped "usize" (shownItem item)

/-- What is wrong with an item in a place, when it is not of one type. -/
def complaintAbout {α : Type} (read : Toml.Item → Option α) (wording : Toml.Item → Text)
    (span : Toml.Span) (item : Toml.Item) : Option Toml.Complaint :=
  if (read item).isSome then none else some ⟨span, wording item⟩

/-- What is wrong with a list of texts: the first item that is none, or the whole of what is no
list. -/
def textsComplaint (span : Toml.Span) : Toml.Item → Option Toml.Complaint
  | .value (.array items) =>
    (items.find? (fun item => (itemText? item.2).isNone)).map
      (fun item => ⟨item.1, mistyped "a string" (shownValue item.2)⟩)
  -- The tables of an array are items that are no texts.
  | .tables .. => some ⟨span, mistyped "a string" (Text.lit "map")⟩
  | item => some ⟨span, mistyped "a sequence" (shownItem item)⟩

/-- What is wrong with the item of a key. -/
def complaint? (key : Text) (span : Toml.Span) (item : Toml.Item) : Option Toml.Complaint :=
  let typed := fun expected item => mistyped expected (shownItem item)
  match String.ofList key with
  | "prompt" | "log_level" => complaintAbout text? (typed "a string") span item
  | "history_file" | "log_file" => complaintAbout path? (typed "path string") span item
  | "max_args" | "history_size" => complaintAbout count? countMistyped span item
  | "greeting" => complaintAbout flag? (typed "a boolean") span item
  | "startup" => textsComplaint span item
  | _ => none

/-- What is wrong with the first of the settings, in the order of the document, that has a value of
another type. -/
def complaintOf (d : Toml.Document) : Toml.Complaint :=
  (d.places.findSome? fun p => (d.get? p.1).bind (complaint? p.1 p.2)).getD ⟨⟨[], []⟩, []⟩

/-- Reads a document over the default settings. -/
def ofText (read : Toml.Reader) (base : Configuration) (t : Text) :
    Except Toml.Complaint Configuration :=
  match read t with
  | .error fault => .error fault.complaint
  | .ok d =>
    match ofDocument? base d with
    | some c => .ok c
    | none => .error (complaintOf d)

end Configuration

end LineShell
