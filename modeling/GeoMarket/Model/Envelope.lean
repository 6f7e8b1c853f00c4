import GeoMarket.Record.Fields

/-!
# Response envelopes

Every answer of the server wraps its payload in an envelope with messages and a success flag.
An envelope that reports failure is an answer like any other; turning it into an error is left
to the caller.
-/
namespace GeoMarket

/-- How severe a message is, from the least to the greatest severity. -/
inductive Severity
  /-- For information. -/
  | info
  /-- A warning. -/
  | warn
  /-- An error. -/
  | error
  /-- A critical error. -/
  | critical
  deriving DecidableEq

namespace Severity

/-- The position in the order of severity. -/
def rank : Severity → Nat
  | info => 0
  | warn => 1
  | error => 2
  | critical => 3

/-- The first severity is at most the second. -/
def le (left right : Severity) : Bool := decide (left.rank ≤ right.rank)

/-- The name that the server uses. -/
def name : Severity → String
  | info => "INFO"
  | warn => "WARN"
  | error => "ERROR"
  | critical => "CRITICAL"

/-- The name shown to a reader. -/
def title : Severity → String
  | info => "Info"
  | warn => "Warn"
  | error => "Error"
  | critical => "Critical"

/-- The severity with a given name. -/
def ofName? (name : String) : Option Severity :=
  [info, warn, error, critical].find? fun severity => severity.name == name

/-- The codec of severities. -/
def codec : Codec Severity := Codec.choice ofName? name

/-- The given severities from the least to the greatest. -/
def sort (severities : List Severity) : List Severity := severities.mergeSort le

/-- The greatest of some severities. -/
def greatest? (severities : List Severity) : Option Severity := (sort severities).getLast?

end Severity

/-- A message of the server. -/
structure Message where
  /-- The code of the message. -/
  code : String
  /-- Its severity. -/
  level : Severity
  /-- A text for the reader. -/
  description : Option String
  deriving DecidableEq

/-- The members of a message. -/
def Message.record : Record Message :=
  (Record.field (.required "code" .text) <|
    Record.field (.required "level" Severity.codec) <|
    Record.field (.optional "description" .text) <|
    Record.empty).isomorphic
    (fun (code, level, description, ()) => ⟨code, level, description⟩)
    (fun message => (message.code, message.level, message.description, ()))

/-- The envelope of every answer. -/
structure Envelope (α : Type) where
  /-- The messages of the server. -/
  messages : List Message
  /-- The payload, if there is one. -/
  result : Option α
  /-- No message is more severe than a warning. -/
  success : Bool
  deriving BEq, DecidableEq

namespace Envelope

variable {α β : Type}

/-- A success with a payload. -/
def ok (result : α) : Envelope α := ⟨[], some result, true⟩

/-- A failure with its messages. -/
def failure (messages : List Message) : Envelope α := ⟨messages, none, false⟩

/-- The messages of a severity or a greater one. -/
def messagesAtLeast (envelope : Envelope α) (level : Severity) : List Message :=
  envelope.messages.filter fun message => level.le message.level

/-- The envelope with its payload changed. -/
def map (change : α → β) (envelope : Envelope α) : Envelope β :=
  ⟨envelope.messages, envelope.result.map change, envelope.success⟩

/-- The payload of a success, or the messages of a failure. -/
def toExcept (envelope : Envelope α) : Except (List Message) (Option α) :=
  if envelope.success then .ok envelope.result else .error envelope.messages

/-- The members of an envelope. -/
def record (payload : Codec α) : Record (Envelope α) :=
  (Record.field (.defaulted "messages" Message.record.codec.listOf []) <|
    Record.field (.nullable "result" payload) <|
    Record.field (.required "success" .flag) <|
    Record.empty).isomorphic
    (fun (messages, result, success, ()) => ⟨messages, result, success⟩)
    (fun envelope => (envelope.messages, envelope.result, envelope.success, ()))

/-- The codec of envelopes around a payload. -/
def codec (payload : Codec α) : Codec (Envelope α) := (record payload).codec

end Envelope
end GeoMarket
