import WebSocket.Bytes
import WebSocket.Text.Mark
import WebSocket.Text.Normal
import WebSocket.Text.Punycode
import WebSocket.Url.Domain.Direction
import WebSocket.Url.Domain.Joiner
import WebSocket.Url.Domain.Mapping

/-
Domains in the form in which they are looked up.  A domain is read character by character and put
into normal form; its labels stand between dots.  A label that is not of ASCII is written in the
letters of ASCII behind `xn--`, and a label that comes in this form has to be one that reading
would have left as it is.
-/
namespace WebSocket
namespace Domain

/-! ## Labels -/

/-- Whether a character may not stand in a domain. -/
def isForbidden (c : Char) : Bool :=
  c.toNat ≤ 32 || c.toNat == 127 || "%#/:<>?@[\\]^|".toList.contains c

/-- What a label in ASCII starts with that stands for another one. -/
def marker : List Char :=
  "xn--".toList

/-- The longest label that is written in ASCII, in characters. -/
def maxLabel : Nat := 1000

/-- The longest form in ASCII that is read, in characters behind the marker. -/
def maxCode : Nat := 2000

/-- The label that the characters behind the marker stand for. -/
def readCode? (code : List Char) : Option (List Char) :=
  if code.length ≤ maxCode && code.all Text.Punycode.isAscii && code.getLast? != some '-' then
    match Text.Punycode.decode? code with
    | none => none
    | some label =>
      if !label.all Text.Punycode.isAscii && label.all isPlain && !label.contains '.' &&
          Text.Normal.normalize label == label then
        some label
      else none
  else none

/-- The label that characters write. -/
def readLabel? (cs : List Char) : Option (List Char) :=
  if marker.isPrefixOf cs then readCode? (cs.drop marker.length) else some cs

/-- Whether a label holds only what it may, where it may. -/
def isOrderlyLabel (label : List Char) : Bool :=
  !label.any isForbidden && !label.head?.any Text.isMark && joinersShow label

/-- The form of a label in ASCII. -/
def writeLabel? (label : List Char) : Option (List Char) :=
  if label.all Text.Punycode.isAscii then some label
  else if label.length ≤ maxLabel then some (marker ++ Text.Punycode.encode label)
  else none

/-! ## Domains -/

/-- The labels of a domain. -/
def readLabels? (text : String) : Option (List (List Char)) := do
  let cs ← readChars? text.toList
  (Sequence.split ['.'] (Text.Normal.normalize cs)).mapM readLabel?

/-- The form in which a domain is looked up. -/
def toAscii? (name : Bytes) : Option String := do
  let text ← Bytes.text? name
  let labels ← readLabels? text
  if labels.all isOrderlyLabel && isOrderly labels then
    let written ← labels.mapM writeLabel?
    return String.ofList (['.'].intercalate written)
  else none

end Domain
end WebSocket
