import GeoMarket.Console.Arguments

/-!
# Help

What the command line prints about itself: the version, and for each group and command what it
is for and how it is called.
-/
namespace GeoMarket.Console

/-- The name of the program. -/
def programName : String := "marketplace-cli"

/-- The version of the program. -/
def programVersion : String := "0.3.0"

/-- What asking for the version prints. -/
def versionText : String := lines [programName ++ " " ++ programVersion]

/-- The help on a group or a command. -/
structure Topic where
  /-- What it is for. -/
  purpose : Option String
  /-- The arguments of a command that are no options. -/
  words : List String := []
  /-- The members of a group with what they are for. -/
  members : List (String × String) := []
  /-- The options of its own, with what they are for. -/
  options : List (String × String) := []

/-- The member of every group that gives help. -/
def helpMember : String × String :=
  ("help", "Print this message or the help of the given subcommand(s)")

/-- The help on the whole program. -/
def rootTopic : Topic where
  purpose := some ("Typed client SDK for the geospatial data marketplace API: models, session "
    ++ "store, navigation guard")
  members :=
    [("config", "Show the server configuration"), ("search", "Search the catalogue"),
      ("item", "Show a catalogue item"), ("cart", "Manage the shopping cart"),
      ("ratings", "List ratings"),
      ("route", "Show where navigating to a path ends up for the current session"), helpMember]

/-- The help on searches. -/
def searchTopic : Topic where
  purpose := some "Search the catalogue"
  words := ["<QUERY>"]
  options :=
    [("    --page <PAGE>", "[default: 0]"),
      ("    --size <SIZE>", "Page size, defaults to the configured page size")]

/-- The help on every group and command, by the names that lead there. -/
def topics : List (List String × Topic) :=
  [([], rootTopic),
    (["config"], ⟨some "Show the server configuration", [], [], [("    --locale <LOCALE>", "")]⟩),
    (["search"], searchTopic),
    (["item"], ⟨some "Show a catalogue item", ["<ID>"], [], []⟩),
    (["cart"], ⟨some "Manage the shopping cart", [],
      [("show", ""), ("add", ""), ("remove", ""), ("clear", ""), helpMember], []⟩),
    (["cart", "show"], ⟨none, [], [], []⟩),
    (["cart", "add"], ⟨none, ["<PRODUCT>", "<PRICING_MODEL>"], [], []⟩),
    (["cart", "remove"], ⟨none, ["<ID>"], [], []⟩),
    (["cart", "clear"], ⟨none, [], [], []⟩),
    (["ratings"], ⟨some "List ratings", [], [("asset", ""), ("provider", ""), helpMember], []⟩),
    (["ratings", "asset"], ⟨none, ["<ID>"], [], []⟩),
    (["ratings", "provider"], ⟨none, ["<ID>"], [], []⟩),
    (["route"], ⟨some "Show where navigating to a path ends up for the current session",
      ["<PATH>"], [], []⟩)]

/-- The options that concern the whole program, with what they are for. The user that the
environment names is shown, its password is not. -/
def commonRows (environment : ClientConfig.Environment) : List (String × String) :=
  let user := (environment.lookup Invocation.usernameVariable).getD ""
  [("    --config <CONFIG>", "TOML configuration file"),
    ("    --base-url <BASE_URL>", "Marketplace server URL, overrides the configuration"),
    ("    --username <USERNAME>", "Sign in with this user before running the command [env: "
      ++ Invocation.usernameVariable ++ "=" ++ user ++ "]"),
    ("    --password <PASSWORD>", "[env: " ++ Invocation.passwordVariable ++ "]"),
    ("    --json", "Print raw JSON envelopes"), ("-v, --verbose", "Debug logging")]

/-- The items of two lists in turn, and behind them what the longer list has left. -/
def inTurn {α : Type} : List α → List α → List α
  | first :: rest, second :: others => first :: second :: inTurn rest others
  | [], others => others
  | rest, [] => rest

/-- The options of the help on the group or command with some names: those of the whole program
and its own in turn, then those for help and version. -/
def Topic.rows (environment : ClientConfig.Environment) (names : List String) (topic : Topic) :
    List (String × String) :=
  inTurn (commonRows environment) topic.options
    ++ [("-h, --help", "Print help")]
    ++ if names.isEmpty then [("-V, --version", "Print version")] else []

/-- Rows in two columns under a title. -/
def columns (title : String) (rows : List (String × String)) : List String :=
  if rows.isEmpty then []
  else
    let width := (rows.map fun row => row.1.length).foldl max 0
    "" :: (title ++ ":") :: rows.map fun (left, right) =>
      "  " ++ left ++ String.ofList (List.replicate (width + 2 - left.length) ' ') ++ right

/-- How a group or command is called, behind its names. -/
def Topic.usage (topic : Topic) : List String :=
  "[OPTIONS]" :: topic.words ++ if topic.members.isEmpty then [] else ["<COMMAND>"]

/-- The text of the help on the group or command with some names. -/
def Topic.text (environment : ClientConfig.Environment) (names : List String) (topic : Topic) :
    String :=
  lines <|
    (topic.purpose.map fun purpose => [purpose, ""]).getD []
      ++ ["Usage: " ++ Text.joinWith " " ((programName :: names) ++ topic.usage)]
      ++ columns "Commands" topic.members
      ++ columns "Arguments" (topic.words.map fun word => (word, ""))
      ++ columns "Options" (topic.rows environment names)

/-- The help on the group or command with some names, if there is one. -/
def helpText? (environment : ClientConfig.Environment) (names : List String) : Option String :=
  (topics.lookup names).map (Topic.text environment names)

end GeoMarket.Console
