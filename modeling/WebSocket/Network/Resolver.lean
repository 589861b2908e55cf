import WebSocket.Address

/-
The names of hosts and the addresses that they stand for, in the order in which they are to be
tried.
-/
namespace WebSocket

/-- The names that are known. -/
structure Resolver where
  hosts : List (String × List Address)

namespace Resolver

/-- Why a name that is not known stands for nothing. -/
def unknownName : String :=
  "failed to lookup address information: Name or service not known"

/-- The addresses of a name. -/
def lookup (r : Resolver) (name : String) : Except String (List Address) :=
  match r.hosts.lookup name with
  | some addresses => .ok addresses
  | none => .error unknownName

/-- The names of the machine itself, and a few for trials. -/
def trial : Resolver :=
  { hosts :=
      [ ("localhost", [.loopback .ipv6, .loopback .ipv4]),
        ("one.test", [.loopback .ipv4]),
        ("far.test", [.v4 ⟨127, 0, 0, 9⟩, .v4 ⟨192, 0, 2, 1⟩]),
        ("none.test", []) ] }

end Resolver
end WebSocket
