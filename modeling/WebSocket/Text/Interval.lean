/-
The text of a span of time: whole seconds with the fraction that is needed, and milliseconds
below one second.  Spans are counted in milliseconds.
-/
namespace WebSocket
namespace Text

/-- The three digits of a fraction of a second, less the zeros at its end. -/
def fraction (ms : Nat) : List Char :=
  let digits := [ms / 100 % 10, ms / 10 % 10, ms % 10].map Nat.digitChar
  (digits.reverse.dropWhile (· == '0')).reverse

/-- The text of a span of `ms` milliseconds. -/
def interval (ms : Nat) : String :=
  if ms = 0 then "0ns"
  else if ms < 1000 then toString ms ++ "ms"
  else
    let whole := toString (ms / 1000)
    match fraction (ms % 1000) with
    | [] => whole ++ "s"
    | digits => whole ++ "." ++ String.ofList digits ++ "s"

end Text
end WebSocket
