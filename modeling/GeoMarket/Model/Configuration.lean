import GeoMarket.Record.Fields
import GeoMarket.Text.Ascii

/-!
# Server configuration

What the server offers for a locale: the ways to sign in and the file types of assets.
-/
namespace GeoMarket

/-- A way to sign in. -/
inductive AuthProvider
  /-- User name and password. -/
  | forms
  /-- An account of Google. -/
  | google
  /-- An account of GitHub. -/
  | gitHub
  /-- An account of OpertusMundi. -/
  | opertusMundi
  deriving DecidableEq

namespace AuthProvider

/-- The name of a provider. -/
def name : AuthProvider → String
  | forms => "Forms"
  | google => "Google"
  | gitHub => "GitHub"
  | opertusMundi => "OpertusMundi"

/-- The provider with a given name. -/
def ofName? (name : String) : Option AuthProvider :=
  [forms, google, gitHub, opertusMundi].find? fun provider => provider.name == name

/-- The codec of providers. -/
def codec : Codec AuthProvider := Codec.choice ofName? name

end AuthProvider

/-- A file type for assets. -/
structure FileType where
  /-- The category of the type. -/
  category : String
  /-- The name of the format. -/
  format : String
  /-- The file name extensions, with or without leading dots. -/
  extensions : List String
  /-- Remarks. -/
  notes : Option String
  /-- Uploads of this type are accepted. -/
  enabled : Bool
  deriving DecidableEq

namespace FileType

/-- An extension without its leading dots, in small letters. -/
def normalized (extension : String) : List Char :=
  (Text.dropLeading '.' extension.toList).map Char.toLower

/-- The type lists an extension, whatever its leading dots and the case of its letters. -/
def lists (fileType : FileType) (extension : String) : Bool :=
  fileType.extensions.any fun listed => normalized listed == normalized extension

/-- The members of a file type. -/
def record : Record FileType :=
  (Record.field (.required "category" .text) <|
    Record.field (.required "format" .text) <|
    Record.field (.defaulted "extensions" Codec.text.listOf []) <|
    Record.field (.optional "notes" .text) <|
    Record.field (.defaulted "enabled" .flag true) <|
    Record.empty).isomorphic
    (fun (category, format, extensions, notes, enabled, ()) =>
      ⟨category, format, extensions, notes, enabled⟩)
    (fun type => (type.category, type.format, type.extensions, type.notes, type.enabled, ()))

end FileType

/-- What concerns assets. -/
structure AssetSettings where
  /-- The file types, in order of preference. -/
  fileTypes : List FileType
  deriving DecidableEq

/-- The members of asset settings. -/
def AssetSettings.record : Record AssetSettings :=
  (Record.field (.defaulted "fileTypes" FileType.record.codec.listOf []) <|
    Record.empty).isomorphic
    (fun (fileTypes, ()) => ⟨fileTypes⟩)
    (fun asset => (asset.fileTypes, ()))

/-- The configuration of the server. -/
structure Configuration where
  /-- The ways to sign in. -/
  authProviders : List AuthProvider
  /-- What concerns assets. -/
  asset : AssetSettings
  deriving DecidableEq

namespace Configuration

/-- A way to sign in is offered. -/
def supports (configuration : Configuration) (provider : AuthProvider) : Bool :=
  configuration.authProviders.contains provider

/-- The first enabled file type that lists an extension. -/
def fileTypeFor? (configuration : Configuration) (extension : String) : Option FileType :=
  configuration.asset.fileTypes.find? fun fileType =>
    fileType.enabled && fileType.lists extension

/-- The members of a configuration. -/
def record : Record Configuration :=
  (Record.field (.defaulted "authProviders" AuthProvider.codec.listOf []) <|
    Record.field (.defaulted "asset" AssetSettings.record.codec ⟨[]⟩) <|
    Record.empty).isomorphic
    (fun (authProviders, asset, ()) => ⟨authProviders, asset⟩)
    (fun configuration => (configuration.authProviders, configuration.asset, ()))

/-- The codec of configurations. -/
def codec : Codec Configuration := record.codec

end Configuration
end GeoMarket
