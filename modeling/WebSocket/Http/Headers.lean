import WebSocket.Error
import WebSocket.Text

/-
Header fields: an ordered map whose names differ in more than letter case.  A field that is
inserted again replaces the earlier value, except that the fields which hold lists join the
values.  A header block is read line by line up to the first empty line.
-/
namespace WebSocket
namespace Http

/-- Header fields in the order of their first insertion. -/
structure Headers where
  entries : List (String × String)
deriving DecidableEq

namespace Headers

/-- No fields. -/
def empty : Headers := ⟨[]⟩

/-- The names of the fields that hold comma-separated lists. -/
def listNames : List String :=
  [ "connection",
    "upgrade",
    "x-forwarded-for",
    "sec-websocket-protocol",
    "sec-websocket-extensions",
    "accept",
    "accept-encoding",
    "accept-language",
    "cache-control",
    "via" ]

/-- Whether the field of a name holds a comma-separated list. -/
def isList (name : String) : Bool :=
  listNames.any fun known => Text.same known name

/-- The value of a field that had `old` and is given `value`. -/
def merge (name old value : String) : String :=
  if isList name && !old.isEmpty then old ++ ", " ++ value else value

/-- The entries with a field inserted. -/
def insertEntry (name value : String) : List (String × String) → List (String × String)
  | [] => [(name, value)]
  | (known, old) :: rest =>
    if Text.same known name then (known, merge name old value) :: rest
    else (known, old) :: insertEntry name value rest

/-- The value of a field among entries. -/
def valueAmong? (name : String) : List (String × String) → Option String
  | [] => none
  | (known, value) :: rest => if Text.same known name then some value else valueAmong? name rest

/-- The entries without a field. -/
def removeEntry (name : String) : List (String × String) → List (String × String)
  | [] => []
  | (known, value) :: rest =>
    if Text.same known name then rest else (known, value) :: removeEntry name rest

/-- Inserts a field.  A field that is there already keeps its place and its spelling. -/
def insert (h : Headers) (name value : String) : Headers :=
  ⟨insertEntry name value h.entries⟩

/-- The value of a field. -/
def get? (h : Headers) (name : String) : Option String :=
  valueAmong? name h.entries

/-- Whether there is a field of the given name. -/
def contains (h : Headers) (name : String) : Bool :=
  (h.get? name).isSome

/-- Whether the list of a field has a token. -/
def hasToken (h : Headers) (name token : String) : Bool :=
  match h.get? name with
  | some value => Text.listHas token value
  | none => false

/-- The fields without the one of a name. -/
def remove (h : Headers) (name : String) : Headers :=
  ⟨removeEntry name h.entries⟩

/-- Removes a field, and returns the value that it had. -/
def take (h : Headers) (name : String) : Option String × Headers :=
  (h.get? name, h.remove name)

/-- How many fields there are. -/
def size (h : Headers) : Nat :=
  h.entries.length

/-- Whether there is no field. -/
def isEmpty (h : Headers) : Bool :=
  h.entries.isEmpty

/-- The fields inserted one after the other. -/
def ofList (fields : List (String × String)) : Headers :=
  fields.foldl (fun h field => h.insert field.1 field.2) empty

/-! ## Lines -/

/-- Whether a line continues the one before it. -/
def isFolded (line : String) : Bool :=
  match line.toList with
  | c :: _ => c == ' ' || c == '\t'
  | [] => false

/-- Whether a text may name a field: it is not empty and holds no blank. -/
def isName (name : String) : Bool :=
  !name.isEmpty && !name.toList.any Text.isBlank

/-- The field that a line gives, its value without the blanks around it. -/
def readLine (line : String) : Except Error (String × String) :=
  if isFolded line then .error (.invalidHeaderValue (Text.trim line) .folded)
  else
    match Text.cut? ":" line with
    | none => .error (.invalidHeaderValue line .noSeparator)
    | some (name, value) =>
      if isName name then .ok (name, Text.trim value)
      else .error (.invalidHeaderValue name .malformedName)

/-- The fields of the given lines, inserted behind those of `h`.  An empty line ends them. -/
def readLinesInto (h : Headers) : List String → Except Error Headers
  | [] => .ok h
  | line :: rest =>
    if line.isEmpty then .ok h
    else
      match readLine line with
      | .ok (name, value) => readLinesInto (h.insert name value) rest
      | .error e => .error e

/-- The fields that lines give, up to the first empty one. -/
def ofLines (lines : List String) : Except Error Headers :=
  readLinesInto empty lines

/-- Refuses a value that would end its line. -/
def checkValue (name value : String) : Except Error Unit :=
  if value.toList.any fun c => c == '\r' || c == '\n' then
    .error (.invalidHeaderValue name .lineBreak)
  else .ok ()

end Headers
end Http
end WebSocket
