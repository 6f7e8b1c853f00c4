import GeoMarket.Console.Help
import GeoMarket.Settings.Document

/-!
# The command line program

A run of the program reads its arguments, loads the settings, signs in if it is given both a
user and a password, and carries out the command. Everything that it needs from outside is an
argument here: the environment, the content of a file, and a transport.
-/
namespace GeoMarket.Console

/-- How a run of the program ends. -/
structure Ending where
  /-- The exit code. -/
  exit : Nat
  /-- What it prints. -/
  printed : String := ""
  /-- What it prints beside that for the attention of the user. -/
  notices : String := ""

namespace Ending

/-- Arguments do not lead to a command. -/
def ofStop (environment : ClientConfig.Environment) : Stop → Ending
  | .version => { exit := 0, printed := versionText }
  | .help names =>
    match helpText? environment names with
    | some text => { exit := 0, printed := text }
    | none => { exit := 2 }
  | .misuse => { exit := 2 }

/-- The line for an error, and below it what has caused it. -/
def errorText (message : String) (cause : Option String) : String :=
  lines [("Error: " ++ message ++ (cause.map ("\n\nCaused by:\n    " ++ ·)).getD "")]

/-- A command has been carried out. -/
def ofReport (report : Report) : Ending where
  exit := if report.failure.isSome then 1 else 0
  printed := report.printed
  notices := report.notices
    ++ (report.failure.map fun failure => errorText failure.message none).getD ""

end Ending

/-- Why there are no settings for a run. -/
inductive SettingsFailure
  /-- The document at a path cannot be used. -/
  | document (path : String) (error : ConfigError)
  /-- The settings make no sense. -/
  | invalid (error : ConfigError)

/-- The end of a run without settings. -/
def SettingsFailure.ending : SettingsFailure → Ending
  | document path error =>
    { exit := 1, notices := Ending.errorText ("Failed to load " ++ path) (some error.message) }
  | invalid error => { exit := 1, notices := Ending.errorText error.message none }

namespace Invocation

/-- The settings of the document that the invocation names, or the defaults. -/
def documentSettings (invocation : Invocation) (file : String → FileContent) :
    Except SettingsFailure ClientConfig :=
  match invocation.config with
  | none => .ok {}
  | some path => (ClientConfig.ofFile path (file path)).mapError (.document path)

/-- The settings of a run: those of the document below those of the environment and those of the
arguments, as far as they make sense together. -/
def settings (invocation : Invocation) (environment : ClientConfig.Environment)
    (file : String → FileContent) : Except SettingsFailure ClientConfig := do
  let config := (← invocation.documentSettings file).withEnvironment environment
  let config := config.adjustAll (invocation.baseUrl.map ClientConfig.Adjustment.baseUrl).toList
  config.validate.mapError .invalid
  return config

/-- Sign in if there are both a user and a password; a report ends the run. -/
def signIn {σ : Type} (invocation : Invocation) (client : MarketplaceClient σ) :
    Flow σ (Option Report) := do
  match invocation.username, invocation.password with
  | some username, some password =>
    match ← client.signIn username password with
    | .error error => return some (Report.ofError (.api error))
    | .ok response =>
      if response.success then return none
      else
        return some
          { notices := messageListing response.messages
            failure := some (.signInRefused username) }
  | _, _ => return none

/-- Sign in and carry out the command. -/
def perform {σ : Type} (invocation : Invocation) (client : MarketplaceClient σ) :
    Flow σ Report := do
  match ← invocation.signIn client with
  | some report => return report
  | none => invocation.command.perform client invocation.json

/-- The end of a run over a transport, whose state at the beginning may depend on the
settings. -/
def ending {σ : Type} (invocation : Invocation) (environment : ClientConfig.Environment)
    (file : String → FileContent) (transport : Http.Transport σ) (wire : ClientConfig → σ) :
    Ending :=
  match invocation.settings environment file with
  | .error failure => failure.ending
  | .ok config =>
    match MarketplaceClient.create config transport with
    | .error error =>
      { exit := 1, notices := Ending.errorText "Failed to create client" (some error.message) }
    | .ok client =>
      let world : World σ := { wire := wire config }
      Ending.ofReport ((invocation.perform client).run world).1

end Invocation
end GeoMarket.Console
