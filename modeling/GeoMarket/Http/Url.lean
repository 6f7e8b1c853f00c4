import GeoMarket.Text.Percent

/-!
# Absolute URLs

The parts of a URL with one of the schemes `http` and `https`, as far as requests need them. A
path is written without dot segments and with every character escaped that may not stand in it.
-/
namespace GeoMarket.Http

/-- An absolute URL in parts. -/
structure Url where
  /-- The scheme. -/
  scheme : String
  /-- The host. -/
  host : String
  /-- The port, unless it is that of the scheme. -/
  port : Option Nat
  /-- The path, from its first slash on. -/
  path : String
  /-- The query without its question mark. -/
  query : Option String
  /-- The fragment without its number sign. -/
  fragment : Option String
  deriving DecidableEq

namespace Url

/-- The scheme, the host and the port. -/
def origin (url : Url) : String :=
  url.scheme ++ "://" ++ url.host ++ (url.port.map fun port => ":" ++ toString port).getD ""

/-- The path with the query, as a request names it. -/
def target (url : Url) : String := url.path ++ (url.query.map ("?" ++ ·)).getD ""

/-- The whole URL. -/
def text (url : Url) : String :=
  url.origin ++ url.target ++ (url.fragment.map ("#" ++ ·)).getD ""

/-- Split a text before the first character of a kind. -/
def breakAt (stops : Char → Bool) (text : List Char) : List Char × List Char :=
  let goesOn := fun character => !stops character
  (text.takeWhile goesOn, text.dropWhile goesOn)

/-- A slash of either kind. -/
def isSlash (character : Char) : Bool := character == '/' || character == '\\'

/-- Bytes that never stand unescaped in a URL. -/
def isControl (byte : UInt8) : Bool := byte < 32 || 126 < byte

/-- A text with some ASCII characters and all others beyond ASCII escaped. -/
def escape (special : String) (text : List Char) : String :=
  String.ofList ((Text.Percent.utf8 (String.ofList text)).flatMap fun byte =>
    if isControl byte || special.toList.contains (Char.ofNat byte.toNat) then
      Text.Percent.escaped byte
    else [Char.ofNat byte.toNat])

/-- The segment stands for its own directory. -/
def isSingleDot (segment : List Char) : Bool :=
  [".", "%2e"].contains (String.ofList (segment.map Char.toLower))

/-- The segment stands for the directory above. -/
def isDoubleDot (segment : List Char) : Bool :=
  ["..", ".%2e", "%2e.", "%2e%2e"].contains (String.ofList (segment.map Char.toLower))

/-- The segments of a path without dot segments, in reverse order; a dot segment at the end
leaves an empty segment behind. -/
def resolveDots : List (List Char) → List (List Char) → List (List Char)
  | found, [] => found
  | found, segment :: rest =>
    let found := if isDoubleDot segment then found.drop 1 else found
    if isSingleDot segment || isDoubleDot segment then
      if rest.isEmpty then [] :: found else resolveDots found rest
    else resolveDots (segment :: found) rest

/-- The pieces of a path between its slashes. -/
def segments (path : List Char) : List (List Char) :=
  Text.splitAt '/' (path.map fun character => if isSlash character then '/' else character)

/-- A path in its written form. -/
def normalPath (path : List Char) : String :=
  let pieces := (resolveDots [] ((segments path).drop 1)).reverse
  if pieces.isEmpty then "/"
  else String.join (pieces.map fun piece => "/" ++ escape " \"#<>?`\x7b\x7d" piece)

/-- Characters that cannot stand in the name of a host. -/
def isForbidden (character : Char) : Bool :=
  character.toNat ≤ 32 || character.toNat == 127
    || "#/:<>?@[\\]^|%".toList.contains character

/-- A character of an address in brackets. -/
def isAddressCharacter (character : Char) : Bool :=
  (Text.hexValue? character).isSome || character == ':' || character == '.'

/-- The host, if it is a name or an address in brackets. -/
def host? (text : List Char) : Option String :=
  match text with
  | '[' :: rest =>
    let inside := rest.dropLast
    if rest.getLast? = some ']' ∧ inside ≠ [] ∧ inside.all isAddressCharacter then
      some (String.ofList (text.map Char.toLower))
    else none
  | [] => none
  | _ => if text.any isForbidden then none else some (String.ofList (text.map Char.toLower))

/-- The port behind a host: nothing, or a colon with a number that fits into 16 bits. -/
def port? (standard : Nat) : List Char → Option (Option Nat)
  | [] => some none
  | ':' :: digits => do
    let values ← digits.mapM Text.digitValue?
    let value := values.foldl (fun sum digit => sum * 10 + digit) 0
    if value < 65536 then some (if digits.isEmpty || value == standard then none else some value)
    else none
  | _ => none

/-- The host and the port of an authority, without the user in front of them. -/
def authority? (standard : Nat) (text : List Char) : Option (String × Option Nat) := do
  let behindUser := ((Text.splitAt '@' text).getLast?).getD []
  let inBrackets := behindUser.takeWhile (· != ']')
  let skipped := if behindUser.head? = some '[' then inBrackets.length else 0
  let (start, rest) := breakAt (· == ':') (behindUser.drop skipped)
  let host ← host? (behindUser.take skipped ++ start)
  let port ← port? standard rest
  some (host, port)

/-- A text without the spaces and control characters at its ends. -/
def trimmed (text : List Char) : List Char :=
  let isEmpty := fun character : Char => decide (character.toNat ≤ 32)
  ((text.dropWhile isEmpty).reverse.dropWhile isEmpty).reverse

/-- The absolute URL that a text stands for. -/
def parse? (text : String) : Option Url := do
  let characters := (trimmed text.toList).filter fun c => c != '\t' && c != '\n' && c != '\r'
  let (scheme, rest) := breakAt (· == ':') characters
  let scheme := String.ofList (scheme.map Char.toLower)
  let standard ← [("http", 80), ("https", 443)].lookup scheme
  let (authority, rest) :=
    breakAt (fun c => isSlash c || c == '?' || c == '#') ((rest.drop 1).dropWhile isSlash)
  let (host, port) ← authority? standard authority
  let (path, rest) := breakAt (fun c => c == '?' || c == '#') rest
  let (query, rest) := breakAt (· == '#') rest
  some
    { scheme, host, port
      path := normalPath path
      query := if query.isEmpty then none else some (escape " \"#<>'" (query.drop 1))
      fragment := if rest.isEmpty then none else some (escape " \"<>`" (rest.drop 1)) }

end Url
end GeoMarket.Http
