import GeoMarket.Console.Command

/-!
# Command line arguments

The command line is a tree of groups and commands. Options that concern the whole program may
stand in front of the name of a group or a command or behind it; the value that stands deepest
counts, and an option may not be repeated at one place. A value that starts with a minus sign is
taken for an option, unless the mark `--` stands before it. Arguments that make no sense end the
program; what it then explains of its usage is left out.
-/
namespace GeoMarket.Console

/-- An option. -/
inductive Setting
  /-- The path of a document with settings. -/
  | config
  /-- The URL of the server. -/
  | baseUrl
  /-- The user to sign in before the command. -/
  | username
  /-- The password of that user. -/
  | password
  /-- Reports are raw JSON. -/
  | json
  /-- The log is verbose. -/
  | verbose
  /-- The locale of the configuration. -/
  | locale
  /-- The index of a page. -/
  | page
  /-- The size of a page. -/
  | size
  deriving DecidableEq

/-- A whole number of 32 bits behind an optional sign. -/
def word32? (text : String) : Option UInt32 :=
  let (negative, digits) := match text.toList with
    | '-' :: rest => (true, rest)
    | '+' :: rest => (false, rest)
    | digits => (false, digits)
  match digits.mapM Text.digitValue? with
  | some (first :: rest) =>
    let value := (first :: rest).foldl (fun sum digit => sum * 10 + digit) 0
    if value < 0x100000000 ∧ (value = 0 ∨ !negative) then some (UInt32.ofNat value) else none
  | _ => none

namespace Setting

/-- The name of an option behind two minus signs. -/
def name : Setting → String
  | config => "config"
  | baseUrl => "base-url"
  | username => "username"
  | password => "password"
  | json => "json"
  | verbose => "verbose"
  | locale => "locale"
  | page => "page"
  | size => "size"

/-- The option comes with a value. -/
def takesValue : Setting → Bool
  | json | verbose => false
  | _ => true

/-- The value makes sense for the option. -/
def accepts : Setting → String → Bool
  | config, value => value != ""
  | page, value => (word32? value).isSome
  | size, value => (word32? value).isSome
  | _, _ => true

/-- The options that concern the whole program. -/
def common : List Setting := [config, baseUrl, username, password, json, verbose]

end Setting

/-- A kind of argument that is no option. -/
inductive Word
  /-- Any text. -/
  | text
  /-- An identifier. -/
  | identifier
  deriving DecidableEq

/-- The text is of the kind. -/
def Word.accepts : Word → String → Bool
  | text, _ => true
  | identifier, value => (Uuid.ofText? value).isSome

/-- Why arguments do not lead to a command. -/
inductive Stop
  /-- They ask for the version. -/
  | version
  /-- They ask for help on the group or command with some names. -/
  | help (names : List String)
  /-- They make no sense. -/
  | misuse
  deriving DecidableEq

/-- Options with their values. -/
abbrev Found := List (Setting × String)

/-- What arguments of a group or a command may be. -/
structure Level where
  /-- The options. -/
  settings : List Setting
  /-- The kinds of the other arguments of a command; a group has none. -/
  words : Option (List Word)
  /-- The version may be asked for. -/
  versioned : Bool

/-- Arguments of a group or a command as far as they have been looked at. -/
structure Scan where
  /-- The options. -/
  found : Found := []
  /-- The other arguments of a command. -/
  words : List String := []
  /-- The name of a member of a group, and the arguments behind it. -/
  branch : Option (String × List String) := none

/-- The argument looks like an option. -/
def isMarked (argument : String) : Bool :=
  argument != "-" && argument.toList.head? == some '-'

/-- Arguments with every bundle of short options taken apart, up to the mark `--`. -/
def unbundled : List String → List String
  | [] => []
  | argument :: rest =>
    if argument = "--" then argument :: rest
    else
      match argument.toList with
      | '-' :: first :: second :: letters =>
        if first = '-' then argument :: unbundled rest
        else
          (first :: second :: letters).map (fun letter => String.ofList ['-', letter])
            ++ unbundled rest
      | _ => argument :: unbundled rest

namespace Level

/-- The option with a name, which must be new, and its value if the argument gives one. -/
def named (level : Level) (found : Found) (name : String) (given : Option String) :
    Except Stop (Setting × Option String) :=
  match level.settings.find? fun setting => setting.name == name with
  | none => .error .misuse
  | some setting =>
    if (found.lookup setting).isSome then .error .misuse
    else
      match setting.takesValue, given with
      | false, none => .ok (setting, some "")
      | false, some _ => .error .misuse
      | true, none => .ok (setting, none)
      | true, some value =>
        if setting.accepts value then .ok (setting, some value) else .error .misuse

/-- The option of an argument that looks like one. -/
def option (level : Level) (found : Found) (argument : String) :
    Except Stop (Setting × Option String) :=
  if argument = "--help" ∨ argument = "-h" then .error (.help [])
  else if level.versioned ∧ (argument = "--version" ∨ argument = "-V") then .error .version
  else if argument = "-v" then level.named found Setting.verbose.name none
  else
    match argument.toList with
    | '-' :: '-' :: text =>
      let name := String.ofList (text.takeWhile (· != '='))
      match text.dropWhile (· != '=') with
      | [] => level.named found name none
      | _ :: value => level.named found name (some (String.ofList value))
    | _ => .error .misuse

/-- Look at arguments from the first to the last. A group ends at the name of a member. -/
def scan (level : Level) (onlyWords : Bool) (state : Scan) : List String → Except Stop Scan
  | [] => .ok state
  | argument :: rest =>
    if !onlyWords && argument == "--" then level.scan true state rest
    else if onlyWords || !isMarked argument then
      match level.words with
      | none =>
        if onlyWords then .error .misuse else .ok { state with branch := some (argument, rest) }
      | some kinds =>
        match kinds[state.words.length]? with
        | none => .error .misuse
        | some kind =>
          if kind.accepts argument then
            level.scan onlyWords { state with words := state.words ++ [argument] } rest
          else .error .misuse
    else
      match level.option state.found argument with
      | .error stop => .error stop
      | .ok (setting, some value) =>
        level.scan false { state with found := (setting, value) :: state.found } rest
      | .ok (setting, none) =>
        match rest with
        | [] => .error .misuse
        | value :: rest =>
          if isMarked value || !setting.accepts value then .error .misuse
          else level.scan false { state with found := (setting, value) :: state.found } rest

end Level

/-- What reads the arguments of a group or a command. -/
abbrev Reader := List String → Except Stop (Found × Command)

/-- The arguments of a command with options of its own. -/
def command (settings : List Setting) (words : List Word)
    (build : Found → List String → Option Command) : Reader := fun arguments =>
  match Level.scan ⟨Setting.common ++ settings, some words, false⟩ false {} arguments with
  | .error stop => .error stop
  | .ok state =>
    if state.words.length < words.length then .error .misuse
    else
      match build state.found state.words with
      | some made => .ok (state.found, made)
      | none => .error .misuse

/-- The help on a member of a group. -/
def Stop.within (name : String) : Stop → Stop
  | help names => help (name :: names)
  | stop => stop

/-- The arguments of a group. -/
def group (versioned : Bool) (members : List (String × Reader)) : Reader := fun arguments =>
  match Level.scan ⟨Setting.common, none, versioned⟩ false {} arguments with
  | .error stop => .error stop
  | .ok state =>
    match state.branch with
    | none => .error .misuse
    | some (name, rest) =>
      match members.lookup name with
      | some read =>
        match read rest with
        | .ok (found, made) => .ok (found ++ state.found, made)
        | .error stop => .error (stop.within name)
      | none => if name = "help" then .error (.help rest) else .error .misuse

/-- A command on one identifier. -/
def onIdentifier (build : Uuid → Command) : Reader :=
  command [] [.identifier] fun _ words => match words with
    | [id] => (Uuid.ofText? id).map build
    | _ => none

/-- A command without arguments of its own. -/
def alone (made : Command) : Reader := command [] [] fun _ _ => some made

/-- Put an item into the cart. -/
def addArguments : Reader :=
  command [] [.identifier, .identifier] fun _ words => match words with
    | [product, pricingModel] => do
      some (.cart (.add (← Uuid.ofText? product) (← Uuid.ofText? pricingModel)))
    | _ => none

/-- The commands on the cart. -/
def cartArguments : Reader :=
  group false
    [("show", alone (.cart .display)), ("add", addArguments),
      ("remove", onIdentifier fun id => .cart (.remove id)), ("clear", alone (.cart .clear))]

/-- The commands on ratings. -/
def ratingArguments : Reader :=
  group false
    [("asset", onIdentifier (.ratings .asset)), ("provider", onIdentifier (.ratings .provider))]

/-- Search the catalogue. -/
def searchArguments : Reader :=
  command [.page, .size] [.text] fun found words => match words with
    | [query] =>
      let page := ((found.lookup .page).bind word32?).getD 0
      some (.search query page ((found.lookup .size).bind word32?))
    | _ => none

/-- Show where navigation ends up. -/
def routeArguments : Reader :=
  command [] [.text] fun _ words => match words with
    | [path] => some (.route path)
    | _ => none

/-- All commands. -/
def allArguments : Reader :=
  group true
    [("config", command [.locale] [] fun found _ => some (.config (found.lookup .locale))),
      ("search", searchArguments), ("item", onIdentifier .item), ("cart", cartArguments),
      ("ratings", ratingArguments), ("route", routeArguments)]

/-- A command with the options that concern the whole program. -/
structure Invocation where
  /-- The path of a document with settings. -/
  config : Option String
  /-- The URL of the server. -/
  baseUrl : Option String
  /-- The user to sign in before the command. -/
  username : Option String
  /-- The password of that user. -/
  password : Option String
  /-- Reports are raw JSON. -/
  json : Bool
  /-- The command. -/
  command : Command

namespace Invocation

/-- The variable for the user. -/
def usernameVariable : String := "MARKETPLACE_USERNAME"

/-- The variable for the password. -/
def passwordVariable : String := "MARKETPLACE_PASSWORD"

/-- The invocation that arguments stand for; the environment stands in for a missing user or
password. -/
def ofArguments (environment : ClientConfig.Environment) (arguments : List String) :
    Except Stop Invocation := do
  let (found, command) ← allArguments (unbundled arguments)
  return {
    config := found.lookup .config
    baseUrl := found.lookup .baseUrl
    username := (found.lookup .username).or (environment.lookup usernameVariable)
    password := (found.lookup .password).or (environment.lookup passwordVariable)
    json := (found.lookup .json).isSome
    command }

end Invocation
end GeoMarket.Console
