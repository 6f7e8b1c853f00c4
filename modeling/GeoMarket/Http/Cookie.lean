import GeoMarket.Http.Url

/-!
# Cookies

A server hands out cookies in its answers; each of them is sent back with the requests whose
path it covers. A cookie without a path of its own covers the directory of the request that
brought it, and one whose age has run out is forgotten.
-/
namespace GeoMarket.Http

/-- A cookie. -/
structure Cookie where
  /-- The name. -/
  name : String
  /-- The value. -/
  value : String
  /-- The path that it covers. -/
  path : String
  /-- It is for secure connections only. -/
  secure : Bool
  deriving DecidableEq

namespace Cookie

/-- A text without the white space at its ends. -/
def trimmed (text : List Char) : List Char :=
  let isSpace := fun character => character == ' ' || character == '\t'
  ((text.dropWhile isSpace).reverse.dropWhile isSpace).reverse

/-- The name and the value of a property behind the pair of a cookie. -/
def property (text : List Char) : String × String :=
  let (name, value) := Url.breakAt (· == '=') text
  (String.ofList ((trimmed name).map Char.toLower), String.ofList (trimmed (value.drop 1)))

/-- The directory of a path. -/
def directory (path : String) : String :=
  let parent := (path.toList.reverse.dropWhile (· != '/')).drop 1
  if parent.isEmpty then "/" else String.ofList parent.reverse

/-- The path that the properties of a cookie name, or the directory of the request. -/
def pathOf (url : Url) (properties : List (String × String)) : String :=
  match properties.reverse.lookup "path" with
  | some path => if path.toList.head? = some '/' then path else directory url.path
  | none => directory url.path

/-- The age of a cookie has run out. -/
def isExpired (properties : List (String × String)) : Bool :=
  match properties.reverse.lookup "max-age" with
  | some age => age.toList.head? == some '-' || age == "0"
  | none => false

/-- The cookie in a header that answers a request, and whether its age has run out. -/
def ofHeader? (url : Url) (header : String) : Option (Cookie × Bool) :=
  match Text.splitAt ';' header.toList with
  | [] => none
  | pair :: rest =>
    let (name, value) := Url.breakAt (· == '=') pair
    let properties := rest.map property
    if value.isEmpty || (trimmed name).isEmpty then none
    else
      some ({ name := String.ofList (trimmed name)
              value := String.ofList (trimmed (value.drop 1))
              path := pathOf url properties
              secure := (properties.lookup "secure").isSome }, isExpired properties)

/-- The cookie is for requests to a URL. -/
def covers (cookie : Cookie) (url : Url) : Bool :=
  let path := cookie.path.toList
  let asked := url.path.toList
  (path == asked || (path.isPrefixOf asked
      && (path.getLast? == some '/' || (asked.drop path.length).head? == some '/')))
    && (!cookie.secure || url.scheme == "https")

/-- Cookies with the cookie of a header put among them, in place of an older one. -/
def store (cookies : List Cookie) (url : Url) (header : String) : List Cookie :=
  match ofHeader? url header with
  | none => cookies
  | some (cookie, expired) =>
    let others := cookies.filter fun other =>
      !(other.name == cookie.name && other.path == cookie.path)
    if expired then others else others ++ [cookie]

/-- The header that sends back the cookies for a URL, if there are any. -/
def header? (cookies : List Cookie) (url : Url) : Option String :=
  match cookies.filter (·.covers url) with
  | [] => none
  | found => some (Text.joinWith "; " (found.map fun cookie => cookie.name ++ "=" ++ cookie.value))

end Cookie
end GeoMarket.Http
