import GeoMarket.Http.Interceptor
import GeoMarket.Record.Fields
import GeoMarket.Text.Blank

/-!
# Client settings

The settings of a client come from four layers: defaults, a document, the environment, and the
calls of the program that makes the client. A later layer wins over an earlier one; an empty
variable of the environment counts as unset. A document that is not one of settings is refused
without the words of the parser about it.
-/
namespace GeoMarket

/-- Why settings cannot be used. -/
inductive ConfigError
  /-- The file cannot be read. -/
  | io (path reason : String)
  /-- The document is not one of settings. -/
  | parse
  /-- The settings make no sense. -/
  | invalid (reason : String)
  deriving DecidableEq

/-- The text shown for an error. -/
def ConfigError.message : ConfigError → String
  | io path reason => "Failed to read config file " ++ path ++ ": " ++ reason
  | parse => "Failed to parse config"
  | invalid reason => "Invalid config: " ++ reason

/-- The settings of a client. -/
structure ClientConfig where
  /-- The URL of the server. -/
  baseUrl : String := "http://localhost:8080"
  /-- Cookies are kept between requests. -/
  withCredentials : Bool := true
  /-- The header for the token against forged requests when the session names none. -/
  csrfHeader : String := Http.Interceptor.defaultCsrfHeader
  /-- The locale of the server configuration. -/
  locale : String := "en"
  /-- The page size of searches. -/
  pageSize : UInt32 := 10
  deriving DecidableEq

namespace ClientConfig

/-- The members of settings, all of which have defaults. -/
def record : Record ClientConfig :=
  let standard : ClientConfig := {}
  (Record.field (.defaulted "base_url" .text standard.baseUrl) <|
    Record.field (.defaulted "with_credentials" .flag standard.withCredentials) <|
    Record.field (.defaulted "csrf_header" .text standard.csrfHeader) <|
    Record.field (.defaulted "locale" .text standard.locale) <|
    Record.field (.defaulted "page_size" .word32 standard.pageSize) <|
    Record.empty).isomorphic
    (fun (baseUrl, withCredentials, csrfHeader, locale, pageSize, ()) =>
      ⟨baseUrl, withCredentials, csrfHeader, locale, pageSize⟩)
    (fun config =>
      (config.baseUrl, config.withCredentials, config.csrfHeader, config.locale, config.pageSize,
        ()))

/-- The codec of settings. -/
def codec : Codec ClientConfig := record.codec

/-- The values of environment variables. -/
abbrev Environment := List (String × String)

namespace Environment

/-- The variable for the URL of the server. -/
def baseUrlVariable : String := "MARKETPLACE_BASE_URL"

/-- The variable for the locale. -/
def localeVariable : String := "MARKETPLACE_LOCALE"

/-- The value of a variable, unless it is unset or empty. -/
def value? (environment : Environment) (name : String) : Option String :=
  (environment.lookup name).filter fun value => value != ""

end Environment

/-- The settings with those of the environment put over them. -/
def withEnvironment (config : ClientConfig) (environment : Environment) : ClientConfig :=
  { config with
    baseUrl := (environment.value? Environment.baseUrlVariable).getD config.baseUrl
    locale := (environment.value? Environment.localeVariable).getD config.locale }

/-- A call that sets one of the settings. -/
inductive Adjustment
  /-- Set the URL of the server. -/
  | baseUrl (value : String)
  /-- Set whether cookies are kept. -/
  | credentials (value : Bool)
  /-- Set the header for the token against forged requests. -/
  | csrfHeader (value : String)
  /-- Set the locale. -/
  | locale (value : String)
  /-- Set the page size. -/
  | pageSize (value : UInt32)

/-- The settings after a call. -/
def adjust (config : ClientConfig) : Adjustment → ClientConfig
  | .baseUrl value => { config with baseUrl := value }
  | .credentials value => { config with withCredentials := value }
  | .csrfHeader value => { config with csrfHeader := value }
  | .locale value => { config with locale := value }
  | .pageSize value => { config with pageSize := value }

/-- The settings after some calls, from the first to the last. -/
def adjustAll (config : ClientConfig) (adjustments : List Adjustment) : ClientConfig :=
  adjustments.foldl adjust config

/-- A URL of one of the two schemes. -/
def hasScheme (url : String) : Bool :=
  "http://".toList.isPrefixOf url.toList || "https://".toList.isPrefixOf url.toList

/-- Settings that make sense: a URL with one of the two schemes, a header that is more than white
space, and pages that hold something. -/
def validate (config : ClientConfig) : Except ConfigError Unit :=
  if Text.isBlankText config.baseUrl then .error (.invalid "base_url cannot be empty")
  else if !hasScheme config.baseUrl then
    .error (.invalid ("base_url must start with http:// or https://, got " ++ config.baseUrl))
  else if Text.isBlankText config.csrfHeader then
    .error (.invalid "csrf_header cannot be empty")
  else if config.pageSize = 0 then .error (.invalid "page_size must be greater than zero")
  else .ok ()

end ClientConfig
end GeoMarket
