import GeoMarket.Text.Ascii

/-!
# Trees of settings documents

A document is a list of statements: a header opens a table or an item of a list of tables, and
an assignment puts a value into the table that was opened last. Carrying out the statements in
order gives the members of the document. A statement that would define something twice, or
extend something closed, cannot be carried out.
-/
namespace GeoMarket

/-- How a table came to be. -/
inductive Toml.Origin
  /-- A header defines it. -/
  | header
  /-- Headers name it on the way to their tables. -/
  | passing
  /-- The keys of assignments name it. -/
  | dotted
  /-- It is written in braces. -/
  | inline
  deriving DecidableEq

/-- A value of a document. -/
inductive Toml
  /-- A text. -/
  | string (value : String)
  /-- A whole number. -/
  | integer (value : Int)
  /-- A number with a fraction or an exponent; no setting needs its size. -/
  | real
  /-- A truth value. -/
  | flag (value : Bool)
  /-- A date, a time or both; no setting needs it. -/
  | moment
  /-- An array. -/
  | array (items : List Toml)
  /-- A table. -/
  | table (origin : Toml.Origin) (members : List (String × Toml))
  /-- A list of tables that headers define one by one. -/
  | tables (items : List (List (String × Toml)))

namespace Toml

/-- Keys with their values. -/
abbrev Members := List (String × Toml)

/-- A statement of a document. -/
inductive Statement
  /-- Open the table under a key of the table at a path. -/
  | openTable (path : List String) (key : String)
  /-- Open a new item of the list of tables under a key of the table at a path. -/
  | openItem (path : List String) (key : String)
  /-- Set a key of the table at a path below the open table. -/
  | assign (path : List String) (key : String) (value : Toml)

namespace Members

/-- The members with one of them set, in its place or at the end. -/
def set (key : String) (value : Toml) : Members → Members
  | [] => [(key, value)]
  | (other, old) :: rest =>
    if other = key then (key, value) :: rest else (other, old) :: set key value rest

/-- Change the table at a path. Tables that are missing on the way are made with an origin of
their own, a list of tables leads into its last item, and only tables of some origins may be
entered. The change sees the origin of its table. -/
def change (made : Origin) (enters : Origin → Bool)
    (step : Origin → Members → Option Members) : List String → Origin → Members → Option Members
  | [], origin, members => step origin members
  | key :: path, _, members =>
    match members.lookup key with
    | none =>
      (change made enters step path made []).map fun inner => set key (.table made inner) members
    | some (.table origin inner) =>
      if enters origin then
        (change made enters step path origin inner).map fun inner =>
          set key (.table origin inner) members
      else none
    | some (.tables items) =>
      match items.reverse with
      | [] => none
      | last :: before =>
        (change made enters step path .header last).map fun inner =>
          set key (.tables (before.reverse ++ [inner])) members
    | some _ => none

/-- Headers lead through every table that is not written in braces. -/
def opensByHeader (origin : Origin) : Bool := origin != .inline

/-- Keys of assignments lead through tables that no header defines. -/
def opensByKey (origin : Origin) : Bool := origin == .passing || origin == .dotted

/-- Set a key that is new in the table at a path; on a path, that table has to be one that the
keys of assignments name. -/
def assign? (path : List String) (key : String) (value : Toml) (origin : Origin)
    (members : Members) : Option Members :=
  change .dotted opensByKey (fun origin members =>
    if (origin == .dotted) == path.isEmpty then none
    else if (members.lookup key).isSome then none
    else some (set key value members)) path origin members

/-- Define the table under a key, which headers may have passed before. -/
def openTable? (key : String) (members : Members) : Option Members :=
  match members.lookup key with
  | none => some (set key (.table .header []) members)
  | some (.table .passing inner) => some (set key (.table .header inner) members)
  | some _ => none

/-- Add an item to the list of tables under a key. -/
def openItem? (key : String) (members : Members) : Option Members :=
  match members.lookup key with
  | none => some (set key (.tables [[]]) members)
  | some (.tables items) => some (set key (.tables (items ++ [[]])) members)
  | some _ => none

end Members

/-- A document on the way: the path of the open table, and the members so far. -/
structure Draft where
  /-- The path of the open table. -/
  opened : List String := []
  /-- The members so far. -/
  members : Members := []

namespace Draft

/-- Change the table at a path that starts at the top. -/
def change? (draft : Draft) (path : List String) (step : Members → Option Members) :
    Option Members :=
  Members.change .passing Members.opensByHeader (fun _ => step) path .header draft.members

/-- Carry out a statement. -/
def carryOut? (draft : Draft) : Statement → Option Draft
  | .openTable path key =>
    (draft.change? path (Members.openTable? key)).map fun members => ⟨path ++ [key], members⟩
  | .openItem path key =>
    (draft.change? path (Members.openItem? key)).map fun members => ⟨path ++ [key], members⟩
  | .assign path key value =>
    (draft.change? draft.opened (Members.assign? path key value .header)).map fun members =>
      { draft with members }

end Draft

/-- The members of a document of statements. -/
def ofStatements? (statements : List Statement) : Option Members :=
  (statements.foldlM Draft.carryOut? {}).map Draft.members

end Toml
end GeoMarket
