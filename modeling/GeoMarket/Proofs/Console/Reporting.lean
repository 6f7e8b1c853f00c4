import GeoMarket.Console.Command
import GeoMarket.Proofs.Client.Cart
import GeoMarket.Proofs.Client.Search

/-!
# Reports

The flag for raw JSON decides how a command reports on its last envelope, and nothing else. Whatever
the transport answers, a command leaves the same world behind with and without it. Without it the
command succeeds exactly if every request has brought an envelope of success; with it the last
envelope may report failure.
-/
namespace GeoMarket

open Http

variable {σ α : Type}

/-! ## Exchanges -/

/-- A request with what the transport has made of it. -/
structure Exchange where
  /-- The request. -/
  request : Request
  /-- The answer, or why there is none. -/
  answer : Except ApiError Response

namespace Exchange

/-- The exchange for a request that a transport gets in some state. -/
def made (transport : Transport σ) (wire : σ) (request : Request) : Exchange :=
  ⟨request, (transport request wire).1⟩

/-- The answer has a status of success, and its body holds a value. -/
def Brings (exchange : Exchange) (codec : Codec α) (value : α) : Prop :=
  ∃ response, exchange.answer = .ok response ∧ 200 ≤ response.status ∧ response.status ≤ 299 ∧
    codec.decode? response.body = some value

/-- The answer brings an envelope with some flag of success. -/
def Tells (exchange : Exchange) (codec : Codec (Envelope α)) (success : Bool) : Prop :=
  ∃ envelope, exchange.Brings codec envelope ∧ envelope.success = success

end Exchange

/-- A transport makes some exchanges, one after another, on the way from one state to another. -/
inductive Exchanged (transport : Transport σ) : σ → List Exchange → σ → Prop
  /-- No exchange is made. -/
  | none (wire : σ) : Exchanged transport wire [] wire
  /-- The first exchange moves the transport on, and the others follow. -/
  | next {wire last : σ} {rest : List Exchange} (request : Request)
    (others : Exchanged transport (transport request wire).2 rest last) :
    Exchanged transport wire (.made transport wire request :: rest) last

/-- A transport makes further exchanges from the state in which the first ones have left it. -/
theorem Exchanged.append {transport : Transport σ} {wire middle last : σ}
    {first second : List Exchange} (before : Exchanged transport wire first middle)
    (behind : Exchanged transport middle second last) :
    Exchanged transport wire (first ++ second) last := by
  induction before with
  | none wire => exact behind
  | next request _ ih => exact .next request (ih behind)

/-- A request ends with a value exactly if its exchange brings the value. -/
theorem Gateway.answer_eq_ok_iff (gateway : Gateway σ) (codec : Codec α) (request : Request)
    (wire : σ) (value : α) :
    (gateway.answer codec request wire).map Reply.data = .ok value ↔
      (Exchange.made gateway.transport wire request).Brings codec value :=
  (gateway.concludes_answer codec request wire).map_data_eq_ok_iff value

/-- A flow makes one exchange, and ends with a value exactly if the exchange brings it. -/
def Asks (transport : Transport σ) (brings : Exchange → α → Prop) (flow : Flow σ (Outcome α)) :
    Prop :=
  ∀ world, ∃ exchange : Exchange,
    (flow.behind world).sent = world.sent ++ [exchange.request] ∧
    Exchanged transport world.wire [exchange] (flow.behind world).wire ∧
    ∀ value, flow.value world = .ok value ↔ brings exchange value

namespace Asks

variable (gateway : Gateway σ)

/-- A call of the gateway whose body can be written brings what its exchange brings. -/
theorem unwrapped {call : Gateway.Call} {body : Body} (written : call.body = .ok body)
    (codec : Codec α) :
    Asks gateway.transport (fun exchange => exchange.Brings codec)
      (Resource.unwrapped (call.perform gateway codec)) := by
  intro world
  rw [Gateway.Call.perform_of_written written, Resource.behind_unwrapped,
    Resource.value_unwrapped, Gateway.behind_send, Gateway.value_send, Gateway.sent_answered]
  exact ⟨_, rfl, .next _ (.none _), gateway.answer_eq_ok_iff codec _ world.wire⟩

/-- A call of the server that returns its envelope as it came. -/
theorem call (call : Resource.Call α) (codec : Codec (Envelope α))
    (performs : call.perform gateway = Resource.unwrapped (call.base.perform gateway codec)) :
    Asks gateway.transport (fun exchange => exchange.Brings codec) (call.perform gateway) := by
  obtain ⟨body, written⟩ := call.exists_body
  rw [performs]
  exact unwrapped gateway written codec

/-- A search brings its page with the publishers joined to the items. -/
theorem find (query : CatalogueQuery) :
    Asks gateway.transport
      (fun exchange envelope => ∃ found, exchange.Brings SearchEnvelope.codec found ∧
        found.joined = envelope)
      (Resource.find gateway query) := by
  intro world
  refine ⟨.made gateway.transport world.wire (Resource.findRequest gateway query world.session),
    Resource.sent_find gateway query world, ?_, Resource.value_find_eq_ok_iff gateway query world⟩
  rw [Resource.wire_find]
  exact .next _ (.none _)

variable {transport : Transport σ} {brings : Exchange → α → Prop} {asking : Flow σ (Outcome α)}

/-- What sends nothing may stand in front. -/
theorem preceded {first : Flow σ Unit} (quiet : first.Quiet) (asks : Asks transport brings asking) :
    Asks transport brings (first >>= fun _ => asking) := by
  intro world
  have asked := asks (first.behind world)
  rw [quiet.sent, quiet.wire] at asked
  exact asked

/-- What sends nothing and returns what it gets may stand behind. -/
theorem followed {last : Outcome α → Flow σ (Outcome α)} (asks : Asks transport brings asking)
    (quiet : ∀ outcome, (last outcome).Quiet)
    (returns : ∀ outcome world, (last outcome).value world = outcome) :
    Asks transport brings (asking >>= last) := by
  intro world
  rw [Flow.behind_bind, Flow.value_bind, (quiet _).sent, (quiet _).wire, returns]
  exact asks world

/-- Changes of the session stand around the call that loads the configuration. -/
theorem loadConfiguration (client : MarketplaceClient σ) (locale : Option String) :
    Asks client.gateway.transport
      (fun exchange => exchange.Brings (Envelope.codec Configuration.codec))
      (client.loadConfiguration locale) := by
  have asks := call client.gateway (.getConfiguration (locale.getD client.config.locale)) _ rfl
  refine preceded (.commit _) (asks.followed (fun outcome => .bind (.commit _) fun _ => ?_) ?_)
  · rcases outcome with error | ⟨messages, result, _ | _⟩
    · exact .pure _
    · exact .pure _
    · exact .bind (.commit _) fun _ => .pure _
  · rintro (error | ⟨messages, result, _ | _⟩) world <;> rfl

/-- Keeping the cart changes the session behind the call that brings the cart. -/
theorem keepingCart {brings : Exchange → Envelope Cart → Prop}
    {call : Flow σ (Resource.Answer Cart)} (asks : Asks transport brings call) :
    Asks transport brings (MarketplaceClient.keepingCart call) := by
  refine asks.followed ?_ ?_
  · rintro (error | ⟨messages, cart, _ | _⟩)
    · exact .pure _
    · exact .pure _
    · exact .bind (.commit _) fun _ => .pure _
  · rintro (error | ⟨messages, cart, _ | _⟩) world <;> rfl

/-- Looking an item up asks for the item. -/
theorem findOne (product : Uuid) :
    Asks gateway.transport (fun exchange => exchange.Brings (Envelope.codec CatalogueItem.codec))
      (Resource.findOne gateway product) :=
  call gateway (.findOne product) _ rfl

/-- Adding to the cart asks for the cart behind it. -/
theorem addToCart (client : MarketplaceClient σ) (command : CartAddItemCommand) :
    Asks client.gateway.transport (fun exchange => exchange.Brings (Envelope.codec Cart.codec))
      (client.addToCart command) :=
  keepingCart (call client.gateway (.addCartItem command) _ rfl)

end Asks

/-! ## Commands -/

/-- Joining the publishers keeps the flag of success. -/
theorem SearchEnvelope.success_joined (found : SearchEnvelope) :
    found.joined.success = found.response.success := by
  unfold joined
  split <;> rfl

namespace Console

/-- The report on the end of a flow is one of success exactly if the flow ends with an envelope,
which has to be one of success itself unless the report is raw JSON. -/
theorem Report.failure_ofOutcome (json : Bool) (codec : Codec α) (listing : α → String)
    (outcome : Except ClientError (Envelope α)) :
    (Report.ofOutcome json codec listing outcome).failure = none ↔
      ∃ envelope, outcome = .ok envelope ∧ (envelope.success = true ∨ json = true) := by
  rcases outcome with error | ⟨messages, result, success⟩
  · simp [ofOutcome, ofError]
  · cases json <;> cases success <;> simp [ofOutcome, ofEnvelope, raw, readable]

namespace Command

/-- A command makes one exchange and reports on it, with raw JSON or without: the report without it
needs an envelope of success, the other one takes any envelope. -/
structure Reported (transport : Transport σ) (tells : Exchange → Bool → Prop)
    (flow : Bool → Flow σ Report) (world : World σ) (exchange : Exchange) : Prop where
  /-- The same world is left behind. -/
  same : (flow true).behind world = (flow false).behind world
  /-- The request of the exchange is the only one that is sent. -/
  sent : ((flow false).behind world).sent = world.sent ++ [exchange.request]
  /-- The exchange is one that the transport makes. -/
  exchanged : Exchanged transport world.wire [exchange] ((flow false).behind world).wire
  /-- The readable report. -/
  readable : ((flow false).value world).failure = none ↔ tells exchange true
  /-- The raw report. -/
  raw : ((flow true).value world).failure = none ↔ ∃ success, tells exchange success

/-- The readable report, and the raw one, on a flow with one exchange. -/
theorem exists_reported {transport : Transport σ} {brings : Exchange → Envelope α → Prop}
    {asking : Flow σ (Resource.Answer α)} (asks : Asks transport brings asking) (codec : Codec α)
    (listing : α → String) (world : World σ) :
    ∃ exchange, Reported transport
      (fun exchange success => ∃ envelope, brings exchange envelope ∧ envelope.success = success)
      (fun json => reporting json codec listing asking) world exchange := by
  obtain ⟨exchange, sent, exchanged, ends⟩ := asks world
  have succeeds (json : Bool) :
      ((reporting json codec listing asking).value world).failure = none ↔
        ∃ envelope, brings exchange envelope ∧ (envelope.success = true ∨ json = true) := by
    refine (Report.failure_ofOutcome json codec listing _).trans (exists_congr fun envelope => ?_)
    rw [← ends]
    change (asking.value world).mapError ClientError.api = _ ∧ _ ↔ _
    cases asking.value world <;> simp [Except.mapError]
  refine ⟨exchange, rfl, sent, exchanged, ?_, ?_⟩
  · simpa using succeeds false
  · simpa using succeeds true

/-- How many items a command looks up before the exchange that it reports on. -/
def lookups : Command → Nat
  | cart (.add _ _) => 1
  | _ => 0

/-- Some lookups let a command go on: to add an item, an envelope of success has to bring it, and it
has to offer the pricing model. -/
def Cleared (lookups : List Exchange) : Command → Prop
  | cart (.add _ pricingModel) =>
    ∃ lookup ∈ lookups, ∃ envelope, lookup.Brings (Envelope.codec CatalogueItem.codec) envelope ∧
      envelope.success = true ∧ ∃ item, envelope.result = some item ∧ item.Offers pricingModel
  | _ => True

/-- An exchange brings the envelope that a command reports on, with some flag of success. -/
def Reports (exchange : Exchange) (success : Bool) : Command → Prop
  | config _ => exchange.Tells (Envelope.codec Configuration.codec) success
  | search _ _ _ =>
    ∃ found, exchange.Brings SearchEnvelope.codec found ∧ found.response.success = success
  | item _ => exchange.Tells (Envelope.codec CatalogueItem.codec) success
  | cart _ => exchange.Tells (Envelope.codec Cart.codec) success
  | ratings _ _ => exchange.Tells (Envelope.codec Rating.codec.listOf) success
  | route _ => False

/-- The page of a search reports success exactly if the answer of the server does. -/
theorem reports_search {query : String} {page : UInt32} {size : Option UInt32}
    (exchange : Exchange) (success : Bool) :
    (∃ envelope, (∃ found, exchange.Brings SearchEnvelope.codec found ∧ found.joined = envelope) ∧
      envelope.success = success) ↔ (search query page size).Reports exchange success := by
  constructor
  · rintro ⟨_, ⟨found, brings, rfl⟩, rfl⟩
    exact ⟨found, brings, found.success_joined.symm⟩
  · rintro ⟨found, brings, rfl⟩
    exact ⟨_, ⟨found, brings, rfl⟩, found.success_joined⟩

/-- A command that looks nothing up reports on its only exchange. -/
theorem exists_reported_of_direct (client : MarketplaceClient σ) {command : Command}
    (handled : ∀ path, command ≠ .route path) (direct : command.lookups = 0) (world : World σ) :
    ∃ exchange, Reported client.gateway.transport
      (fun exchange success => command.Reports exchange success)
      (fun json => perform client json command) world exchange := by
  cases command with
  | config locale => exact exists_reported (.loadConfiguration client locale) _ _ world
  | search query page size =>
    obtain ⟨exchange, reported⟩ :=
      exists_reported (.find client.gateway ⟨query, page, pageSize client size⟩)
        (ResultPage.record CatalogueItem.codec).codec pageListing world
    exact ⟨exchange, { reported with
      readable := reported.readable.trans (reports_search exchange true)
      raw := reported.raw.trans (exists_congr (reports_search exchange)) }⟩
  | item id => exact exists_reported (.call client.gateway (.findOne id) _ rfl) _ _ world
  | cart action =>
    cases action with
    | display =>
      exact exists_reported (.keepingCart (.call client.gateway .getCart _ rfl)) _ _ world
    | add product pricingModel => cases direct
    | remove id =>
      exact exists_reported (.keepingCart (.call client.gateway (.removeCartItem id) _ rfl)) _ _
        world
    | clear =>
      exact exists_reported (.keepingCart (.call client.gateway .clearCart _ rfl)) _ _ world
  | ratings target id =>
    exact exists_reported (.call client.gateway (.getRatings target id) _ rfl) _ _ world
  | route path => exact absurd rfl (handled path)

/-- A command runs, with raw JSON and without, from a world: it may look something up, and makes the
exchange that it reports on unless a lookup ends it before. -/
structure Runs (command : Command) (client : MarketplaceClient σ) (world : World σ)
    (lookups : List Exchange) (reported : Option Exchange) : Prop where
  /-- With raw JSON the same world is left behind as without. -/
  same : (perform client true command).behind world = (perform client false command).behind world
  /-- The requests of these exchanges are sent in their order, and no other ones. -/
  sent : ((perform client false command).behind world).sent =
    world.sent ++ (lookups ++ reported.toList).map Exchange.request
  /-- The exchanges are those that the transport makes. -/
  exchanged : Exchanged client.gateway.transport world.wire (lookups ++ reported.toList)
    ((perform client false command).behind world).wire
  /-- Only an item that is added is looked up. -/
  counted : lookups.length = command.lookups
  /-- The command goes on behind its lookups exactly if they let it. -/
  goesOn : reported.isSome = true ↔ command.Cleared lookups
  /-- Without raw JSON the command succeeds exactly if every exchange brings an envelope of success,
  and the item that is added offers the pricing model. -/
  readable : ((perform client false command).value world).failure = none ↔
    command.Cleared lookups ∧ ∀ exchange ∈ reported, command.Reports exchange true
  /-- With raw JSON the last envelope may report failure. -/
  raw : ((perform client true command).value world).failure = none ↔
    command.Cleared lookups ∧ ∀ exchange ∈ reported, ∃ success, command.Reports exchange success

/-- A command that looks nothing up goes on, whatever was exchanged. -/
theorem cleared_of_direct {command : Command} (direct : command.lookups = 0)
    (lookups : List Exchange) : command.Cleared lookups := by
  rcases command with _ | _ | _ | (_ | _ | _ | _) | _ | _
  case cart.add => cases direct
  all_goals exact trivial

/-- Behind lookups that let the command go on, all depends on the exchange that is reported on. -/
theorem cleared_and_reported_iff {cleared : Prop} (holds : cleared) (exchange : Exchange)
    (tells : Exchange → Prop) :
    (cleared ∧ ∀ reported ∈ some exchange, tells reported) ↔ tells exchange := by
  simp [holds]

/-- A command that looks nothing up makes the exchange that it reports on. -/
theorem runs_of_direct (client : MarketplaceClient σ) {command : Command}
    (handled : ∀ path, command ≠ .route path) (direct : command.lookups = 0) (world : World σ) :
    ∃ exchange, command.Runs client world [] (some exchange) := by
  obtain ⟨exchange, reported⟩ := exists_reported_of_direct client handled direct world
  have cleared := cleared_of_direct direct []
  refine ⟨exchange, reported.same, reported.sent, reported.exchanged, direct.symm, ?_, ?_, ?_⟩
  · simp [cleared]
  · rw [cleared_and_reported_iff cleared]
    exact reported.readable
  · rw [cleared_and_reported_iff cleared]
    exact reported.raw

section Adding

variable (client : MarketplaceClient σ) {product pricingModel : Uuid} {world : World σ}

/-- An item that is looked up and offers the pricing model is put into the cart, and that is
reported on. -/
theorem perform_add_of_offers {messages : List Message} {item : CatalogueItem}
    (found : (Resource.findOne client.gateway product).value world =
      .ok ⟨messages, some item, true⟩)
    (offers : item.Offers pricingModel) (json : Bool) :
    let flow := perform client json (.cart (.add product pricingModel))
    let rest := reporting json Cart.codec cartListing (client.addToCart ⟨item.id, pricingModel⟩)
    let middle := (Resource.findOne client.gateway product).behind world
    flow.behind world = rest.behind middle ∧ flow.value world = rest.value middle := by
  simp [perform, performCart, addToCart, reporting, found, MarketplaceClient.addItemToCart,
    CartAddItemCommand.forItem_of_offers offers]

/-- Without an item that offers the pricing model, the command fails behind its lookup. -/
theorem perform_add_of_not_offers
    (missing : ∀ messages item,
      (Resource.findOne client.gateway product).value world = .ok ⟨messages, some item, true⟩ →
        ¬item.Offers pricingModel) (json : Bool) :
    let flow := perform client json (.cart (.add product pricingModel))
    flow.behind world = (Resource.findOne client.gateway product).behind world ∧
      (flow.value world).failure ≠ none := by
  simp only [perform, performCart, addToCart, Flow.behind_bind, Flow.value_bind]
  generalize (Resource.findOne client.gateway product).value world = outcome at missing
  rcases outcome with error | ⟨messages, _ | item, _ | _⟩
  · simp [Report.ofError]
  · simp
  · simp
  · simp
  · have unoffered := missing messages item rfl
    simp [MarketplaceClient.addItemToCart, CartAddItemCommand.forItem_of_not_offers unoffered,
      Report.ofOutcome, Report.ofError]

/-- The lookup of an item lets the command go on exactly if it ends with an envelope of success that
brings an item with the pricing model. -/
theorem cleared_add_iff {lookup : Exchange} {ending : Resource.Answer CatalogueItem}
    (ends : ∀ envelope, ending = .ok envelope ↔
      lookup.Brings (Envelope.codec CatalogueItem.codec) envelope) :
    (cart (.add product pricingModel)).Cleared [lookup] ↔
      ∃ messages item, ending = .ok ⟨messages, some item, true⟩ ∧ item.Offers pricingModel := by
  simp only [Cleared, List.mem_singleton, exists_eq_left, ← ends]
  constructor
  · rintro ⟨⟨messages, _, _⟩, ended, rfl, item, rfl, offers⟩
    exact ⟨messages, item, ended, offers⟩
  · rintro ⟨messages, item, ended, offers⟩
    exact ⟨_, ended, rfl, item, rfl, offers⟩

variable (product pricingModel world)

/-- A command that adds an item looks it up, and puts it into the cart if the lookup lets it. -/
theorem runs_add : ∃ lookup reported,
    (cart (.add product pricingModel)).Runs client world [lookup] reported := by
  obtain ⟨lookup, sent, exchanged, ends⟩ := Asks.findOne client.gateway product world
  have cleared_iff : (cart (.add product pricingModel)).Cleared [lookup] ↔ _ := cleared_add_iff ends
  by_cases cleared : (cart (.add product pricingModel)).Cleared [lookup]
  · obtain ⟨messages, item, found, offers⟩ := cleared_iff.mp cleared
    have steps := perform_add_of_offers client found offers
    obtain ⟨exchange, reported⟩ := exists_reported (.addToCart client ⟨item.id, pricingModel⟩)
      Cart.codec cartListing ((Resource.findOne client.gateway product).behind world)
    refine ⟨lookup, some exchange, ?_, ?_, ?_, rfl, ?_, ?_, ?_⟩
    · rw [(steps true).1, (steps false).1]
      exact reported.same
    · rw [(steps false).1, reported.sent, sent]
      simp
    · rw [(steps false).1]
      exact exchanged.append reported.exchanged
    · simp [cleared]
    · rw [(steps false).2, cleared_and_reported_iff cleared]
      exact reported.readable
    · rw [(steps true).2, cleared_and_reported_iff cleared]
      exact reported.raw
  · have stops := perform_add_of_not_offers client fun messages item found offers =>
      cleared (cleared_iff.mpr ⟨messages, item, found, offers⟩)
    refine ⟨lookup, none, ?_, ?_, ?_, rfl, ?_, ?_, ?_⟩
    · rw [(stops true).1, (stops false).1]
    · rw [(stops false).1]
      exact sent
    · rw [(stops false).1]
      exact exchanged
    · simp [cleared]
    · simpa [cleared] using (stops false).2
    · simpa [cleared] using (stops true).2

end Adding

/-- **The flag for raw JSON.** Whatever a command is to do and whatever the transport answers, the
same requests are sent in the same order with the flag and without, and the same world is left
behind. Without the flag the command succeeds exactly if every exchange has brought an envelope of
success, and the item that is added offers the pricing model. With the flag the last envelope, the
one that is reported on, may be one of failure. Only the command that shows where navigation ends up
has no envelope to report on. -/
theorem json_decides_report_only (client : MarketplaceClient σ) (command : Command)
    (handled : ∀ path, command ≠ .route path) (world : World σ) :
    ∃ lookups reported, command.Runs client world lookups reported := by
  by_cases direct : command.lookups = 0
  · obtain ⟨exchange, runs⟩ := runs_of_direct client handled direct world
    exact ⟨[], some exchange, runs⟩
  · rcases command with _ | _ | _ | (_ | ⟨product, pricingModel⟩ | _ | _) | _ | _
    case cart.add =>
      obtain ⟨lookup, reported, runs⟩ := runs_add client product pricingModel world
      exact ⟨[lookup], reported, runs⟩
    all_goals exact absurd rfl direct

/-- The server refuses what it is asked. If the cart was to be cleared, the readable report tells
so, and the raw report is one of success; if an item was to be added, no further request is made. -/
theorem json_decides_report_only_refused :
    let client : MarketplaceClient (List ScriptEntry) :=
      { config := {}, gateway := MarketplaceClient.gatewayFor {} scripted }
    let world : World (List ScriptEntry) :=
      { wire := [.answer ⟨200, "\x7b\"success\":false\x7d"⟩] }
    (∃ exchange, (cart .clear).Runs client world [] (some exchange) ∧
      (cart .clear).Reports exchange false ∧ ¬(cart .clear).Reports exchange true) ∧
    ∃ lookup, (cart (.add default default)).Runs client world [lookup] none := by
  intro client world
  constructor
  · have refused : ((perform client false (cart .clear)).value world).failure.isNone = false := by
      decide +kernel
    have accepted : ((perform client true (cart .clear)).value world).failure.isNone = true := by
      decide +kernel
    obtain ⟨lookups, reported, runs⟩ := json_decides_report_only client (cart .clear) nofun world
    obtain rfl : lookups = [] := List.length_eq_zero_iff.mp runs.counted
    obtain ⟨exchange, rfl⟩ := Option.isSome_iff_exists.mp (runs.goesOn.mpr trivial)
    have unsuccessful : ¬(cart .clear).Reports exchange true := by
      intro tells
      have ended := runs.readable.mpr ((cleared_and_reported_iff trivial exchange _).mpr tells)
      rw [ended] at refused
      cases refused
    obtain ⟨_, reports⟩ := runs.raw.mp (Option.isNone_iff_eq_none.mp accepted)
    obtain ⟨success, tells⟩ := reports exchange rfl
    cases success with
    | false => exact ⟨exchange, runs, tells, unsuccessful⟩
    | true => exact absurd tells unsuccessful
  · let adding := perform client false (cart (.add default default))
    have asked : (adding.behind world).sent.length = 1 := by decide +kernel
    obtain ⟨lookups, reported, runs⟩ :=
      json_decides_report_only client (cart (.add default default)) nofun world
    obtain ⟨lookup, rfl⟩ := List.length_eq_one_iff.mp runs.counted
    rw [runs.sent] at asked
    cases reported with
    | none => exact ⟨lookup, runs⟩
    | some exchange => cases asked

end Command
end Console
end GeoMarket
