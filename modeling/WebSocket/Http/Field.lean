import WebSocket.Http.Headers

/-
Header fields as they stand on their lines, before any of them is taken into the headers: the same
name may come several times and in any letter case, and a value has its blanks around it.
-/
namespace WebSocket
namespace Http

/-- The lines before the first empty one. -/
def Headers.block (lines : List String) : List String :=
  lines.takeWhile (!·.isEmpty)

/-- A header field on a line of its own. -/
structure Field where
  name : String
  value : String
deriving DecidableEq

namespace Field

/-- The line of a field. -/
def line (f : Field) : String :=
  f.name ++ ":" ++ f.value

/-- A field that is read from its line.  Neither a blank nor a colon stands in the name, so the first
colon of the line ends it. -/
structure IsLegible (f : Field) : Prop where
  named : f.name ≠ ""
  solid : ∀ c ∈ f.name.toList, Text.isBlank c = false
  parted : ':' ∉ f.name.toList

/-- A field that a line may hold.  No blank stands in the name, so none stands at the front of the
line, and the first colon of the line ends the name. -/
structure IsProper (f : Field) : Prop where
  named : f.name ≠ ""
  solid : ∀ c ∈ f.name.toList, Text.isBlank c = false
  parted : ':' ∉ f.name.toList
  whole : ¬ ['\r', '\n'] <:+: f.line.toList

/-- The field on a line, whose name ends at the first colon. -/
def ofLine? (line : String) : Option Field :=
  (Text.cut? ":" line).map fun (name, value) => { name, value }

/-- The fields on the lines before the first empty one. -/
def ofLines (lines : List String) : List Field :=
  (Headers.block lines).filterMap ofLine?

/-- Whether a field has a name, in any letter case. -/
def isNamed (name : String) (f : Field) : Bool :=
  Text.same f.name name

/-- The value that counts for a name which stands for one value: that of the last field, without
the blanks around it. -/
def last? (name : String) (fields : List Field) : Option String :=
  (fields.reverse.find? (isNamed name)).map fun f => Text.trim f.value

/-- A field of a name lists a token, in any letter case, between commas. -/
def Lists (name token : String) (fields : List Field) : Prop :=
  ∃ f ∈ fields, f.isNamed name = true ∧
    ∃ piece ∈ Text.pieces "," (Text.trim f.value), Text.same (Text.trim piece) token = true

/-- The headers that fields make. -/
def headers (fields : List Field) : Headers :=
  fields.foldl (fun h f => h.insert f.name (Text.trim f.value)) .empty

end Field
end Http
end WebSocket
