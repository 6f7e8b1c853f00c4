import GeoMarket.Client.Marketplace
import GeoMarket.Console.Listing
import GeoMarket.Json.Writer

/-!
# Reports of commands

A report is what a command prints and how it ends. The report on an envelope is either the
envelope itself as indented JSON, which counts as a success whatever it says, or its messages
followed by a listing of its result.
-/
namespace GeoMarket.Console

/-- Why a command fails. -/
inductive Failure
  /-- A flow of the client fails. -/
  | client (error : ClientError)
  /-- The envelope of an answer reports failure. -/
  | refused
  /-- The catalogue has no item with an identifier. -/
  | itemMissing (product : Uuid)
  /-- The server has refused to sign a user in. -/
  | signInRefused (username : String)

/-- The text shown for a failure. -/
def Failure.message : Failure → String
  | client error => error.message
  | refused => "Request was not successful"
  | itemMissing product => "Catalogue item " ++ product.text ++ " not found"
  | signInRefused username => "Sign in failed for " ++ username

/-- What a command prints and how it ends. -/
structure Report where
  /-- What it prints. -/
  printed : String := ""
  /-- What it prints beside that for the attention of the user. -/
  notices : String := ""
  /-- Why it fails, if it does. -/
  failure : Option Failure := none

namespace Report

/-- The report on a failed flow of the client. -/
def ofError (error : ClientError) : Report := { failure := some (.client error) }

/-- An envelope as indented JSON. -/
def raw {α : Type} (codec : Codec α) (envelope : Envelope α) : Report :=
  { printed := lines [((Envelope.codec codec).write envelope).indented] }

/-- The messages of an envelope and a listing of its result. -/
def readable {α : Type} (listing : α → String) (envelope : Envelope α) : Report :=
  { printed := if envelope.success then (envelope.result.map listing).getD "" else ""
    notices := messageListing envelope.messages
    failure := if envelope.success then none else some .refused }

/-- The report on an envelope. -/
def ofEnvelope {α : Type} (json : Bool) (codec : Codec α) (listing : α → String)
    (envelope : Envelope α) : Report :=
  if json then raw codec envelope else readable listing envelope

/-- The report on the end of a flow that brings an envelope. -/
def ofOutcome {α : Type} (json : Bool) (codec : Codec α) (listing : α → String) :
    Except ClientError (Envelope α) → Report
  | .error error => ofError error
  | .ok envelope => ofEnvelope json codec listing envelope

end Report
end GeoMarket.Console
