import GeoMarket.Settings.ClientConfig
import GeoMarket.Toml.Reader

/-!
# Settings in documents

A document of settings is a table. Keys that name no setting are ignored, missing ones leave the
default, and a setting with a value of the wrong kind spoils the document.
-/
namespace GeoMarket

/-- What a file holds. -/
inductive FileContent
  /-- There is no such file. -/
  | missing
  /-- The file cannot be read, for a reason. -/
  | unreadable (reason : String)
  /-- The bytes of the file. -/
  | bytes (content : ByteArray)

namespace ClientConfig

/-- A text of a document. -/
def text? : Toml → Option String
  | .string value => some value
  | _ => none

/-- A truth value of a document. -/
def flag? : Toml → Option Bool
  | .flag value => some value
  | _ => none

/-- A whole number of a document that has 32 bits. -/
def word32? : Toml → Option UInt32
  | .integer value =>
    if 0 ≤ value ∧ value < 0x100000000 then some (UInt32.ofNat value.toNat) else none
  | _ => none

/-- The value of a key, or its default. -/
def setting? {α : Type} (members : Toml.Members) (key : String) (read : Toml → Option α)
    (standard : α) : Option α :=
  match members.lookup key with
  | some value => read value
  | none => some standard

/-- The settings of a table. -/
def ofTable? (members : Toml.Members) : Option ClientConfig := do
  let standard : ClientConfig := {}
  let baseUrl ← setting? members "base_url" text? standard.baseUrl
  let withCredentials ← setting? members "with_credentials" flag? standard.withCredentials
  let csrfHeader ← setting? members "csrf_header" text? standard.csrfHeader
  let locale ← setting? members "locale" text? standard.locale
  let pageSize ← setting? members "page_size" word32? standard.pageSize
  some { baseUrl, withCredentials, csrfHeader, locale, pageSize }

/-- The settings of a document. -/
def ofDocument (document : String) : Except ConfigError ClientConfig :=
  match (Toml.parse? document).bind ofTable? with
  | some config => .ok config
  | none => .error .parse

/-- The settings of a file with a path. -/
def ofFile (path : String) : FileContent → Except ConfigError ClientConfig
  | .missing => .error (.io path "No such file or directory (os error 2)")
  | .unreadable reason => .error (.io path reason)
  | .bytes content =>
    match String.fromUTF8? content with
    | some document => ofDocument document
    | none => .error (.io path "stream did not contain valid UTF-8")

end ClientConfig
end GeoMarket
