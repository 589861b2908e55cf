import WebSocket.Text.Numeral
import WebSocket.Url.Host

/-
URLs, read the way browsers read them.  Blanks and controls around a URL, and tabs and line ends
within, count for nothing.  The well-known schemes of the network have an authority whatever
slashes stand before it, a port that is left out when it is the usual one, and a path in which the
segments `.` and `..` are resolved; path and query are put into percent coding.  Of a URL with
another scheme only the parts that can be wrong are looked at.

Reading stands in for a general library of URLs and of the domains in them, of which a client needs
the parts and the errors.
-/
namespace WebSocket

/-- A URL. -/
inductive Url
  /-- A URL of one of the well-known schemes of the network. -/
  | web (scheme : String) (host : Host) (port : Option Nat) (path : String)
    (query : Option String)
  /-- A URL of another scheme. -/
  | other (scheme : String)
deriving DecidableEq

namespace Url

/-- The usual ports of the well-known schemes of the network. -/
def usualPorts : List (String × Nat) :=
  [("http", 80), ("https", 443), ("ws", 80), ("wss", 443), ("ftp", 21)]

/-- The usual port of a scheme. -/
def usualPort? (scheme : String) : Option Nat :=
  usualPorts.lookup scheme

/-- The scheme of a URL. -/
def scheme : Url → String
  | .web scheme _ _ _ _ => scheme
  | .other scheme => scheme

/-! ## Text -/

/-- Whether a character counts for nothing at the ends of a URL. -/
def isPadding (c : Char) : Bool :=
  c.toNat ≤ 32

/-- Whether a character counts for nothing within a URL. -/
def isIgnored (c : Char) : Bool :=
  c == '\t' || c == '\n' || c == '\r'

/-- The characters of a URL that count. -/
def clean (s : String) : List Char :=
  let cs := s.toList.dropWhile isPadding
  ((cs.reverse.dropWhile isPadding).reverse).filter (!isIgnored ·)

/-- Whether a character may stand in a scheme after the first. -/
def inScheme (c : Char) : Bool :=
  c.isAlphanum || c == '+' || c == '-' || c == '.'

/-- The scheme at the front, in small letters, and what follows its colon. -/
def readScheme? (cs : List Char) : Option (String × List Char) :=
  match cs.span inScheme with
  | (first :: more, ':' :: rest) =>
    if first.isAlpha then some (Text.fold (String.ofList (first :: more)), rest) else none
  | _ => none

/-! ## Authority -/

/-- Whether a character ends the authority.  Only well-known schemes take a backslash for a
slash. -/
def endsAuthority (known : Bool) (c : Char) : Bool :=
  c == '/' || c == '?' || c == '#' || (known && c == '\\')

/-- Takes away the credentials before the last `@` of the authority, and says whether there were
any.  An empty authority after a bare `@` is an error. -/
def skipCredentials (known : Bool) (cs : List Char) : Except UrlFault (Bool × List Char) :=
  let (authority, rest) := cs.span (!endsAuthority known ·)
  if !authority.contains '@' then .ok (false, cs)
  else
    let host := (authority.reverse.takeWhile (· != '@')).reverse
    let credentials := authority.take (authority.length - host.length - 1)
    if credentials.isEmpty && host.isEmpty && !rest.isEmpty then .error .emptyHost
    else .ok (!credentials.isEmpty && credentials != [':'], host ++ rest)

/-- The host at the front and what follows it.  A colon within brackets does not end it. -/
def spanHost (known : Bool) : (inside : Bool) → List Char → List Char × List Char
  | _, [] => ([], [])
  | inside, c :: rest =>
    if endsAuthority known c || (c == ':' && !inside) then ([], c :: rest)
    else
      let inside := if c == '[' then true else if c == ']' then false else inside
      let (host, rest) := spanHost known inside rest
      (c :: host, rest)

/-- The port after a colon, if any is given, and what follows it. -/
def readPort : List Char → Except UrlFault (Option Nat × List Char)
  | ':' :: rest =>
    let (digits, rest) := rest.span Char.isDigit
    let follows := rest.head?.all (endsAuthority true)
    if digits.isEmpty then
      if follows then .ok (none, rest) else .error .invalidPort
    else
      match Text.digits? 10 0 digits with
      | some port => if port < 65536 && follows then .ok (some port, rest) else .error .invalidPort
      | none => .error .invalidPort
  | cs => .ok (none, cs)

/-! ## Path and query -/

/-- Whether a segment stays where it is. -/
def isSingleDot (segment : String) : Bool :=
  [".", "%2e"].contains (Text.fold segment)

/-- Whether a segment goes up. -/
def isDoubleDot (segment : String) : Bool :=
  ["..", ".%2e", "%2e.", "%2e%2e"].contains (Text.fold segment)

/-- Whether characters are the letter of a drive and its mark. -/
def isDrive : List Char → Bool
  | [letter, mark] => letter.isAlpha && (mark == ':' || mark == '|')
  | _ => false

/-- The segments above, of those in `done`, which stand latest first.  Nothing is above the letter
of a drive. -/
def goUp : (done : List String) → List String
  | [] => []
  | segment :: above => if isDrive segment.toList then segment :: above else above

/-- The segments between slashes and backslashes. -/
def segments (cs : List Char) : List String :=
  Text.pieces "/" (String.ofList (cs.map fun c => if c == '\\' then '/' else c))

/-- Resolves the segments that move, behind the resolved ones in `done`, which stand latest
first. -/
def resolve (done : List String) : List String → List String
  | [] => done.reverse
  | segment :: rest =>
    let isLast := rest.isEmpty
    if isDoubleDot segment then
      resolve (if isLast then "" :: goUp done else goUp done) rest
    else if isSingleDot segment then resolve (if isLast then "" :: done else done) rest
    else resolve (Text.Percent.encode Text.Percent.inPath segment :: done) rest

/-- The path that characters write. -/
def readPath (cs : List Char) : String :=
  let relative := match cs with
    | '/' :: rest => rest
    | '\\' :: rest => rest
    | cs => cs
  "/" ++ "/".intercalate (resolve [] (segments relative))

/-- The query at the front. -/
def readQuery : List Char → Option String
  | '?' :: rest =>
    some (Text.Percent.encode Text.Percent.inQuery (String.ofList (rest.takeWhile (· != '#'))))
  | _ => none

/-! ## Schemes -/

/-- What follows the colon of a well-known scheme of the network. -/
def readWeb (scheme : String) (usual : Nat) (cs : List Char) : Except UrlFault Url := do
  let cs := cs.dropWhile fun c => c == '/' || c == '\\'
  let (_, cs) ← skipCredentials true cs
  let (hostText, cs) := spanHost true false cs
  if hostText.isEmpty then throw .emptyHost
  let host ← Host.read hostText
  let (port, cs) ← readPort cs
  let (path, cs) := cs.span fun c => c != '?' && c != '#'
  let port := if port = some usual then none else port
  return .web scheme host port (readPath path) (readQuery cs)

/-- Checks an authority that stands behind two slashes. -/
def checkAuthority (cs : List Char) : Except UrlFault Unit := do
  let (credentials, cs) ← skipCredentials false cs
  let (host, cs) := spanHost false false cs
  Host.checkOpaque host
  if host.isEmpty && cs.head? = some ':' then throw .emptyHost
  let _ ← readPort cs
  if host.isEmpty && credentials then throw .emptyHost

/-- Checks the host of a file, which stands behind two slashes. -/
def checkFile : List Char → Except UrlFault Unit
  | a :: b :: rest =>
    let host := rest.takeWhile (!endsAuthority true ·)
    if (a == '/' || a == '\\') && (b == '/' || b == '\\') && !host.isEmpty && !isDrive host then
      match Host.read host with
      | .ok _ => .ok ()
      | .error e => .error e
    else .ok ()
  | _ => .ok ()

/-- The URL that a text writes. -/
def parse (s : String) : Except UrlFault Url :=
  match readScheme? (clean s) with
  | none => .error .noScheme
  | some (scheme, cs) =>
    match usualPort? scheme with
    | some usual => readWeb scheme usual cs
    | none => do
      if scheme = "file" then checkFile cs
      else
        match cs with
        | '/' :: '/' :: cs => checkAuthority cs
        | _ => pure ()
      return .other scheme

end Url
end WebSocket
