import GeoMarket.Text.Ascii
import GeoMarket.Text.CaseFold

/-!
# Path patterns

A pattern is a list of segments, each behind a slash. A literal segment stands for itself up to
the case of letters, a parameter for any piece between two slashes, and a wildcard for any text
without a line feed, slashes included. A path may end with one more slash than its pattern. The
lone pattern `*` stands for any text without a line feed.
-/
namespace GeoMarket.Navigation

/-- What may stand between two slashes of a path. -/
inductive Segment
  /-- A text, up to the case of its letters. -/
  | literal (letters : List Char)
  /-- Any text that is not empty and has no slash, captured under a name. -/
  | parameter (name : String)
  /-- Any text without a line feed. -/
  | wildcard
  deriving DecidableEq

/-- The segment that a piece of a pattern stands for. -/
def Segment.ofPiece : List Char → Segment
  | ':' :: name => .parameter (String.ofList name)
  | ['*'] => .wildcard
  | letters => .literal letters

/-- The set of paths that a route stands for. -/
inductive Pattern
  /-- Any path without a line feed. -/
  | anything
  /-- Paths made of segments. -/
  | path (segments : List Segment)
  deriving DecidableEq

/-- The values captured by the parameters of a pattern. -/
abbrev Captures := List (String × String)

namespace Pattern

/-- The pattern that a text stands for; what comes before its first slash counts for nothing, and
neither do the slashes at its end. -/
def ofText (text : String) : Pattern :=
  if text = "*" then anything
  else
    let pieces := Text.splitAt '/' (Text.dropTrailing '/' text.toList)
    path ((pieces.drop 1).map Segment.ofPiece)

/-- What is left of a path behind a literal. -/
def afterLiteral? : List Char → List Char → Option (List Char)
  | [], rest => some rest
  | letter :: letters, character :: rest =>
    if Text.sameLetter letter character then afterLiteral? letters rest else none
  | _ :: _, [] => none

/-- What may be left of a path behind a wildcard, the shortest rest first. -/
def afterWildcard : List Char → List (List Char)
  | [] => [[]]
  | character :: rest =>
    (if character = '\n' then [] else afterWildcard rest) ++ [character :: rest]

/-- A character of a parameter value. -/
def isPlain (character : Char) : Bool := character != '/'

/-- The captures of segments along a path, in order; a wildcard takes as much as it can. -/
def captureSegments? : List Segment → List Char → Option Captures
  | [], rest => if rest = [] ∨ rest = ['/'] then some [] else none
  | segment :: segments, '/' :: rest =>
    match segment with
    | .literal letters => (afterLiteral? letters rest).bind (captureSegments? segments)
    | .parameter name =>
      let value := rest.takeWhile isPlain
      if value.isEmpty then none
      else
        (captureSegments? segments (rest.dropWhile isPlain)).map fun captures =>
          (name, String.ofList value) :: captures
    | .wildcard => (afterWildcard rest).findSome? (captureSegments? segments)
  | _ :: _, _ => none

/-- The captures of a pattern along a path, if the pattern stands for the path. -/
def captures? (pattern : Pattern) (path : List Char) : Option Captures :=
  match pattern with
  | .anything => if path.contains '\n' then none else some []
  | .path segments => captureSegments? segments path

end Pattern

namespace Captures

/-- The captures with one more; a name keeps the value that it got last. -/
def insert (captures : Captures) (name value : String) : Captures :=
  captures.filter (fun entry => entry.1 != name) ++ [(name, value)]

/-- The captures with each name once. -/
def settled (captures : Captures) : Captures :=
  captures.foldl (fun found (name, value) => insert found name value) []

end Captures
end GeoMarket.Navigation
