import GeoMarket.Console.Program
import GeoMarket.Proofs.Change.Prevailing

/-!
# Which layer of the settings prevails

Each setting has the value of the last call that sets it; failing that, the one that the environment
supplies; failing that, the one of the document; and failing that, its default. A document of
settings can be read exactly if each setting that it names has a value of the right kind. The
program layers its settings in the same way, and starts with them only if they make sense together.
-/
namespace GeoMarket.ClientConfig

variable {α : Type}

/-! ## Settings and their layers -/

/-- A setting, by the type of its value. -/
inductive Field : Type → Type
  /-- The URL of the server. -/
  | baseUrl : Field String
  /-- Whether cookies are kept. -/
  | credentials : Field Bool
  /-- The header for the token against forged requests. -/
  | csrfHeader : Field String
  /-- The locale. -/
  | locale : Field String
  /-- How many items a page holds. -/
  | pageSize : Field UInt32

namespace Field

/-- The value of a setting. -/
def read : Field α → ClientConfig → α
  | baseUrl, config => config.baseUrl
  | credentials, config => config.withCredentials
  | csrfHeader, config => config.csrfHeader
  | locale, config => config.locale
  | pageSize, config => config.pageSize

/-- The default of a setting. -/
def standard : Field α → α
  | baseUrl => "http://localhost:8080"
  | credentials => true
  | csrfHeader => "X-CSRF-TOKEN"
  | locale => "en"
  | pageSize => 10

/-- The key of a setting in documents. -/
def key : Field α → String
  | baseUrl => "base_url"
  | credentials => "with_credentials"
  | csrfHeader => "csrf_header"
  | locale => "locale"
  | pageSize => "page_size"

/-- A value of a document stands for a value of the setting: a text for a text, a truth value for a
truth value, and a whole number for one of 32 bits. -/
def Denotes : Field α → Toml → α → Prop
  | baseUrl, written, value => written = .string value
  | credentials, written, value => written = .flag value
  | csrfHeader, written, value => written = .string value
  | locale, written, value => written = .string value
  | pageSize, written, value => written = .integer value.toNat

/-- The environment sets a variable for the setting, and the value is not empty. -/
def Supplied (environment : Environment) : Field α → α → Prop
  | baseUrl, value => environment.lookup "MARKETPLACE_BASE_URL" = some value ∧ value ≠ ""
  | locale, value => environment.lookup "MARKETPLACE_LOCALE" = some value ∧ value ≠ ""
  | _, _ => False

/-- The value that a call gives to the setting. -/
def adjusted? : Field α → Adjustment → Option α
  | baseUrl, .baseUrl value => some value
  | credentials, .credentials value => some value
  | csrfHeader, .csrfHeader value => some value
  | locale, .locale value => some value
  | pageSize, .pageSize value => some value
  | _, _ => none

/-- The value that a setting has before any call: the one of the environment, else the one of the
document, else the default. -/
inductive Underlies (members : Toml.Members) (environment : Environment) (field : Field α) :
    α → Prop
  /-- The environment supplies the value. -/
  | environment {value : α} (supplied : field.Supplied environment value) :
    Underlies members environment field value
  /-- The environment supplies none, and the document has a value for the key. -/
  | document {value : α} {written : Toml} (unsupplied : ¬∃ value, field.Supplied environment value)
    (present : members.lookup field.key = some written) (denotes : field.Denotes written value) :
    Underlies members environment field value
  /-- Neither the environment nor the document has a value. -/
  | standard (unsupplied : ¬∃ value, field.Supplied environment value)
    (absent : members.lookup field.key = none) :
    Underlies members environment field field.standard

end Field

/-- Every setting that a document names has a value of the right kind there. -/
def Readable (members : Toml.Members) : Prop :=
  ∀ {α : Type} (field : Field α) (written : Toml), members.lookup field.key = some written →
    ∃ value, field.Denotes written value

/-- Every setting has the value of the last call for it, or the one that it has before any call. -/
def Layered (members : Toml.Members) (environment : Environment) (adjustments : List Adjustment)
    (config : ClientConfig) : Prop :=
  ∀ {α : Type} (field : Field α),
    Prevails field.adjusted? adjustments (field.Underlies members environment) (field.read config)

/-! ## The layers one by one -/

namespace Field

/-- Settings consist of their values. -/
theorem eq_of_read_eq {config other : ClientConfig}
    (same : ∀ {α : Type} (field : Field α), field.read config = field.read other) :
    config = other := by
  obtain ⟨baseUrl, withCredentials, csrfHeader, locale, pageSize⟩ := config
  obtain ⟨_, _, _, _, _⟩ := other
  cases same .baseUrl
  cases same .credentials
  cases same .csrfHeader
  cases same .locale
  cases same .pageSize
  rfl

/-- A call gives a value to its own setting and to no other. -/
theorem overwrites (field : Field α) : Overwrites adjust field.read field.adjusted? := by
  intro config adjustment
  cases field <;> cases adjustment <;> rfl

/-- How a setting is read from a value of a document. -/
def value? : Field α → Toml → Option α
  | baseUrl => text?
  | credentials => flag?
  | csrfHeader => text?
  | locale => text?
  | pageSize => word32?

/-- A setting that is a text is read from a text. -/
theorem text?_eq_some_iff {written : Toml} {value : String} :
    text? written = some value ↔ written = .string value := by
  cases written <;> simp [text?]

/-- A setting that is a truth value is read from a truth value. -/
theorem flag?_eq_some_iff {written : Toml} {value : Bool} :
    flag? written = some value ↔ written = .flag value := by
  cases written <;> simp [flag?]

/-- A setting of 32 bits is read from its own whole number. -/
theorem word32?_eq_some_iff {written : Toml} {value : UInt32} :
    word32? written = some value ↔ written = .integer value.toNat := by
  cases written with
  | integer number =>
    rw [word32?, Toml.integer.injEq]
    have bound := value.toNat_lt
    constructor
    · intro found
      split at found
      next inside =>
        cases found
        rw [UInt32.toNat_ofNat']
        omega
      next outside => cases found
    · rintro rfl
      rw [if_pos (by omega), Int.toNat_natCast, UInt32.ofNat_toNat]
  | _ => simp [word32?]

/-- A setting is read from the values that stand for one of its own. -/
theorem value?_eq_some_iff (field : Field α) {written : Toml} {value : α} :
    field.value? written = some value ↔ field.Denotes written value := by
  cases field with
  | baseUrl => exact text?_eq_some_iff
  | credentials => exact flag?_eq_some_iff
  | csrfHeader => exact text?_eq_some_iff
  | locale => exact text?_eq_some_iff
  | pageSize => exact word32?_eq_some_iff

/-- The value that the environment has for a setting. -/
def supplied? (environment : Environment) : Field α → Option α
  | baseUrl => environment.value? Environment.baseUrlVariable
  | locale => environment.value? Environment.localeVariable
  | _ => none

/-- The environment has a value for a variable that is set and not empty. -/
theorem value?_environment_eq_some_iff {environment : Environment} {name value : String} :
    environment.value? name = some value ↔ environment.lookup name = some value ∧ value ≠ "" := by
  simp [Environment.value?, Option.filter_eq_some_iff]

/-- The environment has the values that it supplies. -/
theorem supplied?_eq_some_iff (field : Field α) {environment : Environment} {value : α} :
    field.supplied? environment = some value ↔ field.Supplied environment value := by
  cases field with
  | baseUrl => exact value?_environment_eq_some_iff
  | locale => exact value?_environment_eq_some_iff
  | _ => exact ⟨nofun, False.elim⟩

/-- The environment stands over what the settings have been. -/
theorem read_withEnvironment (field : Field α) (config : ClientConfig)
    (environment : Environment) :
    field.read (config.withEnvironment environment) =
      (field.supplied? environment).getD (field.read config) := by
  cases field <;> rfl

/-- A setting has one value at most before any call. -/
theorem Underlies.unique {members : Toml.Members} {environment : Environment} {field : Field α}
    {value other : α} (underlies : field.Underlies members environment value)
    (alsoUnderlies : field.Underlies members environment other) : value = other := by
  cases underlies with
  | environment supplied =>
    cases alsoUnderlies with
    | environment otherSupplied =>
      rw [← supplied?_eq_some_iff] at supplied otherSupplied
      exact Option.some.inj (supplied.symm.trans otherSupplied)
    | document unsupplied _ _ => exact absurd ⟨_, supplied⟩ unsupplied
    | standard unsupplied _ => exact absurd ⟨_, supplied⟩ unsupplied
  | document unsupplied present denotes =>
    cases alsoUnderlies with
    | environment supplied => exact absurd ⟨_, supplied⟩ unsupplied
    | document _ otherPresent otherDenotes =>
      cases present.symm.trans otherPresent
      rw [← value?_eq_some_iff] at denotes otherDenotes
      exact Option.some.inj (denotes.symm.trans otherDenotes)
    | standard _ absent => cases present.symm.trans absent
  | standard unsupplied absent =>
    cases alsoUnderlies with
    | environment supplied => exact absurd ⟨_, supplied⟩ unsupplied
    | document _ present _ => cases present.symm.trans absent
    | standard _ _ => rfl

end Field

/-- Layers determine the settings. -/
theorem Layered.unique {members : Toml.Members} {environment : Environment}
    {adjustments : List Adjustment} {config other : ClientConfig}
    (layered : Layered members environment adjustments config)
    (alsoLayered : Layered members environment adjustments other) : config = other :=
  Field.eq_of_read_eq fun field =>
    (layered field).unique (fun _ _ first second => first.unique second) (alsoLayered field)

/-! ## Documents -/

/-- What a document says about a setting, or the default. -/
def Field.ofTable? (members : Toml.Members) (field : Field α) : Option α :=
  setting? members field.key field.value? field.standard

/-- A setting that a document names is read from its value there. -/
theorem Field.ofTable?_of_present {members : Toml.Members} {field : Field α} {written : Toml}
    (present : members.lookup field.key = some written) :
    field.ofTable? members = field.value? written := by
  rw [ofTable?, setting?, present]

/-- A setting that a document does not name has its default. -/
theorem Field.ofTable?_of_absent {members : Toml.Members} {field : Field α}
    (absent : members.lookup field.key = none) :
    field.ofTable? members = some field.standard := by
  rw [ofTable?, setting?, absent]

/-- A table of settings is read setting by setting. -/
theorem ofTable?_eq (members : Toml.Members) :
    ofTable? members =
      (Field.ofTable? members .baseUrl).bind fun baseUrl =>
      (Field.ofTable? members .credentials).bind fun withCredentials =>
      (Field.ofTable? members .csrfHeader).bind fun csrfHeader =>
      (Field.ofTable? members .locale).bind fun locale =>
      (Field.ofTable? members .pageSize).bind fun pageSize =>
      some { baseUrl, withCredentials, csrfHeader, locale, pageSize } := rfl

/-- The settings of a table are those that each setting is read as. -/
theorem read_of_ofTable? {members : Toml.Members} {config : ClientConfig}
    (found : ofTable? members = some config) (field : Field α) :
    field.ofTable? members = some (field.read config) := by
  simp only [ofTable?_eq, Option.bind_eq_some_iff] at found
  obtain ⟨baseUrl, first, credentials, second, csrfHeader, third, locale, fourth, pageSize, fifth,
    made⟩ := found
  cases made
  cases field with
  | baseUrl => exact first
  | credentials => exact second
  | csrfHeader => exact third
  | locale => exact fourth
  | pageSize => exact fifth

/-- There are settings in a table exactly if every value that it has for one is of the right
kind. -/
theorem exists_ofTable?_iff {members : Toml.Members} :
    (∃ config, ofTable? members = some config) ↔ Readable members := by
  constructor
  · rintro ⟨config, found⟩ α field written present
    have value := read_of_ofTable? found field
    rw [Field.ofTable?_of_present present, Field.value?_eq_some_iff] at value
    exact ⟨_, value⟩
  · intro readable
    have found {α : Type} (field : Field α) : ∃ value, field.ofTable? members = some value := by
      cases present : members.lookup field.key with
      | some written =>
        obtain ⟨value, denotes⟩ := readable field written present
        exact ⟨value, (Field.ofTable?_of_present present).trans
          (field.value?_eq_some_iff.mpr denotes)⟩
      | none => exact ⟨_, Field.ofTable?_of_absent present⟩
    obtain ⟨baseUrl, first⟩ := found .baseUrl
    obtain ⟨credentials, second⟩ := found .credentials
    obtain ⟨csrfHeader, third⟩ := found .csrfHeader
    obtain ⟨locale, fourth⟩ := found .locale
    obtain ⟨pageSize, fifth⟩ := found .pageSize
    refine ⟨⟨baseUrl, credentials, csrfHeader, locale, pageSize⟩, ?_⟩
    rw [ofTable?_eq, first, second, third, fourth, fifth]
    rfl

/-- The settings of a table with those of the environment over them are those before any call. -/
theorem underlies_withEnvironment {members : Toml.Members} {config : ClientConfig}
    (found : ofTable? members = some config) (environment : Environment) (field : Field α) :
    field.Underlies members environment (field.read (config.withEnvironment environment)) := by
  rw [field.read_withEnvironment]
  cases supplied : field.supplied? environment with
  | some value => exact .environment (field.supplied?_eq_some_iff.mp supplied)
  | none =>
    have unsupplied : ¬∃ value, field.Supplied environment value := by
      rintro ⟨value, given⟩
      cases supplied.symm.trans (field.supplied?_eq_some_iff.mpr given)
    have value := read_of_ofTable? found field
    cases present : members.lookup field.key with
    | some written =>
      rw [Field.ofTable?_of_present present, Field.value?_eq_some_iff] at value
      exact .document unsupplied present value
    | none =>
      rw [Field.ofTable?_of_absent present] at value
      rw [Option.getD_none, ← Option.some.inj value]
      exact .standard unsupplied present

/-- The settings of a table, below those of the environment and of some calls, are the only ones
that are layered so. -/
theorem eq_adjustAll_iff {members : Toml.Members} {read : ClientConfig}
    (found : ofTable? members = some read) (environment : Environment)
    (adjustments : List Adjustment) (config : ClientConfig) :
    config = (read.withEnvironment environment).adjustAll adjustments ↔
      Layered members environment adjustments config := by
  have layered : Layered members environment adjustments
      ((read.withEnvironment environment).adjustAll adjustments) := fun field =>
    field.overwrites.prevails _ adjustments (underlies_withEnvironment found environment field)
  constructor
  · rintro rfl
    exact layered
  · intro other
    exact other.unique layered

/-- A document that is a table has settings exactly if its values are of the right kinds. -/
theorem ofDocument_of_parsed {document : String} {members : Toml.Members}
    (parsed : Toml.parse? document = some members) :
    (¬Readable members ∧ ofDocument document = .error .parse) ∨
      (Readable members ∧
        ∃ read, ofTable? members = some read ∧ ofDocument document = .ok read) := by
  rw [← exists_ofTable?_iff, ofDocument, parsed, Option.bind_some]
  cases ofTable? members with
  | none => exact .inl ⟨nofun, rfl⟩
  | some read => exact .inr ⟨⟨read, rfl⟩, read, rfl, rfl⟩

/-- A file holds the text of a document with some members. -/
inductive Written : FileContent → Toml.Members → Prop
  /-- The bytes of the file are a text, and the text is a document. -/
  | text {content : ByteArray} {document : String} {members : Toml.Members}
    (decoded : String.fromUTF8? content = some document)
    (parsed : Toml.parse? document = some members) : Written (.bytes content) members

/-- A file has the settings of the document in it, or there is no document in it that can be
read. -/
theorem ofFile_cases (path : String) (content : FileContent) :
    (∃ members read, Written content members ∧ ofTable? members = some read ∧
      ofFile path content = .ok read) ∨
    ((¬∃ members, Written content members ∧ Readable members) ∧
      ∃ error, ofFile path content = .error error) := by
  cases content with
  | missing => exact .inr ⟨nofun, _, rfl⟩
  | unreadable reason => exact .inr ⟨nofun, _, rfl⟩
  | bytes content =>
    rw [ofFile]
    cases decoded : String.fromUTF8? content with
    | none =>
      refine .inr ⟨?_, _, rfl⟩
      rintro ⟨members, ⟨found, _⟩, _⟩
      cases decoded.symm.trans found
    | some document =>
      dsimp only
      cases parsed : Toml.parse? document with
      | none =>
        refine .inr ⟨?_, .parse, by rw [ofDocument, parsed]; rfl⟩
        rintro ⟨members, ⟨found, other⟩, _⟩
        cases decoded.symm.trans found
        cases parsed.symm.trans other
      | some members =>
        rcases ofDocument_of_parsed parsed with ⟨unreadable, failed⟩ | ⟨_, read, found, made⟩
        · refine .inr ⟨?_, .parse, failed⟩
          rintro ⟨members, ⟨found, other⟩, readable⟩
          cases decoded.symm.trans found
          cases parsed.symm.trans other
          exact unreadable readable
        · exact .inl ⟨members, read, .text decoded parsed, found, made⟩

end GeoMarket.ClientConfig

namespace GeoMarket.Console.Invocation

open ClientConfig

/-! ## The settings of the program -/

/-- The members of the document that an invocation names; without a document there are none. -/
inductive Names (invocation : Invocation) (file : String → FileContent) : Toml.Members → Prop
  /-- No document is named. -/
  | nothing (unnamed : invocation.config = none) : Names invocation file []
  /-- A document is named, and its file holds it. -/
  | document {path : String} {members : Toml.Members} (named : invocation.config = some path)
    (written : Written (file path) members) : Names invocation file members

/-- The call that an invocation makes on its settings, if any. -/
def adjustments (invocation : Invocation) : List Adjustment :=
  match invocation.baseUrl with
  | some url => [.baseUrl url]
  | none => []

/-- An invocation has the settings of the table that it names, or fails on the document. -/
theorem documentSettings_cases (invocation : Invocation) (file : String → FileContent) :
    (∃ members read, invocation.Names file members ∧ ofTable? members = some read ∧
      invocation.documentSettings file = .ok read) ∨
    ((¬∃ members, invocation.Names file members ∧ Readable members) ∧
      ∃ path error, invocation.config = some path ∧
        invocation.documentSettings file = .error (.document path error)) := by
  unfold documentSettings
  cases named : invocation.config with
  | none => exact .inl ⟨[], {}, .nothing named, rfl, rfl⟩
  | some path =>
    dsimp only
    rcases ofFile_cases path (file path) with ⟨members, read, written, found, made⟩ |
        ⟨unreadable, error, failed⟩
    · exact .inl ⟨members, read, .document named written, found, by rw [made]; rfl⟩
    · refine .inr ⟨?_, path, error, rfl, by rw [failed]; rfl⟩
      rintro ⟨members, names, readable⟩
      cases names with
      | nothing unnamed => cases named.symm.trans unnamed
      | document other written =>
        cases named.symm.trans other
        exact unreadable ⟨members, written, readable⟩

/-- The settings of an invocation are those of its document below the environment and its own, as
far as they make sense together. -/
theorem settings_of_documentSettings {invocation : Invocation} {environment : Environment}
    {file : String → FileContent} {read : ClientConfig}
    (made : invocation.documentSettings file = .ok read) :
    let config := (read.withEnvironment environment).adjustAll invocation.adjustments
    match config.validate with
    | .ok () => invocation.settings environment file = .ok config
    | .error error => invocation.settings environment file = .error (.invalid error) := by
  intro config
  have options : (invocation.baseUrl.map Adjustment.baseUrl).toList = invocation.adjustments := by
    rw [adjustments]
    cases invocation.baseUrl <;> rfl
  have settled : invocation.settings environment file =
      (config.validate.mapError SettingsFailure.invalid).map fun _ => config := by
    rw [settings, made, options]
    change (config.validate.mapError SettingsFailure.invalid >>= fun _ => pure config) = _
    cases config.validate <;> rfl
  rw [settled]
  cases config.validate <;> rfl

end GeoMarket.Console.Invocation

namespace GeoMarket.ClientConfig

/-- **Precedence of the layers.** A document that is a table has settings exactly if every value
that it has for one is of the right kind. These settings, with those of any environment put over
them and then changed by any calls, are the only ones in which every setting has the value of the
last call for it; failing that, the one that the environment supplies; failing that, the one of the
document; and failing that, its default. In the same way an invocation of the program layers the
document that it names, the environment and the URL of the server that it is given; it starts with
these settings if they are valid, and not at all if they are not. -/
theorem layers_prevail (document : String) (environment : Environment)
    (adjustments : List Adjustment) (invocation : Console.Invocation)
    (file : String → FileContent) :
    (match Toml.parse? document with
    | none => ofDocument document = .error .parse
    | some members =>
      (¬Readable members ∧ ofDocument document = .error .parse) ∨
      (Readable members ∧ ∃ read, ofDocument document = .ok read ∧
        ∀ config, config = (read.withEnvironment environment).adjustAll adjustments ↔
          Layered members environment adjustments config)) ∧
    let settings := invocation.settings environment file
    (((¬∃ members, invocation.Names file members ∧ Readable members) ∧
      ∃ path error, invocation.config = some path ∧ settings = .error (.document path error)) ∨
    ∃ members config, invocation.Names file members ∧ Readable members ∧
      (∀ other, other = config ↔ Layered members environment invocation.adjustments other) ∧
      match config.validate with
      | .ok () => settings = .ok config
      | .error error => settings = .error (.invalid error)) := by
  constructor
  · cases parsed : Toml.parse? document with
    | none =>
      dsimp only
      rw [ofDocument, parsed]
      rfl
    | some members =>
      rcases ofDocument_of_parsed parsed with failed | ⟨readable, read, found, made⟩
      · exact .inl failed
      · exact .inr ⟨readable, read, made, eq_adjustAll_iff found environment adjustments⟩
  · intro settings
    rcases invocation.documentSettings_cases file with ⟨members, read, names, found, made⟩ |
        ⟨unreadable, path, error, named, failed⟩
    · refine .inr ⟨members, _, names, exists_ofTable?_iff.mp ⟨read, found⟩,
        eq_adjustAll_iff found environment invocation.adjustments, ?_⟩
      exact Console.Invocation.settings_of_documentSettings made
    · refine .inl ⟨unreadable, path, error, named, ?_⟩
      change invocation.settings environment file = _
      rw [Console.Invocation.settings, failed]
      rfl

end GeoMarket.ClientConfig
