import WebSocket.Text.Numeral
import WebSocket.Text.Printable

/-
Quoted text: a text between quotation marks in which everything that could mislead a reader is
written out.  The quotation mark and the backslash follow a backslash, the usual controls have a
letter, and every other character that is invisible or extends the one before it is given by its
number.
-/
namespace WebSocket
namespace Text

/-- How a quoted text writes a character. -/
def quotedChar (c : Char) : List Char :=
  if c = '\"' then ['\\', '\"']
  else if c = '\\' then ['\\', '\\']
  else if c = '\n' then ['\\', 'n']
  else if c = '\t' then ['\\', 't']
  else if c = '\r' then ['\\', 'r']
  else if c.toNat = 0 then ['\\', '0']
  else if isInvisible c || isExtending c then
    ['\\', 'u', '\x7b'] ++ Nat.toDigits 16 c.toNat ++ ['\x7d']
  else [c]

/-- A text between quotation marks. -/
def quoted (s : String) : String :=
  String.ofList (['\"'] ++ s.toList.flatMap quotedChar ++ ['\"'])

end Text
end WebSocket
