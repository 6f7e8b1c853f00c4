import GeoMarket.Client.Marketplace
import GeoMarket.Proofs.Client.Call
import GeoMarket.Proofs.Http.Headers
import GeoMarket.Proofs.Text.Separator

/-!
# The addresses of requests

Settings that are valid name a server below one of two schemes. A client takes the slashes at the
end of that URL away before it puts the path of a call behind it. So the URL of a request has the
scheme of the settings, what follows it there, and the path, as long as anything but slashes follows
the scheme: if nothing does, the slashes of the scheme go as well.
-/
namespace GeoMarket

open Http Text

variable {σ α : Type}

namespace ClientConfig

/-- A URL consists of a scheme, two slashes, a server with what follows it up to the last character
that is no slash, and further slashes. -/
structure Parts (url scheme server : String) (slashes : Nat) : Prop where
  /-- There are two schemes. -/
  known : scheme = "http:" ∨ scheme = "https:"
  /-- The URL is made of its parts. -/
  written : url = scheme ++ "//" ++ server ++ String.ofList (List.replicate slashes '/')
  /-- The slashes at the end are all among the further ones. -/
  ended : server.toList.getLast? ≠ some '/'

/-- Settings are valid if their URL has a scheme, their header is more than white space, and their
pages hold something. -/
theorem validate_eq_ok_iff {config : ClientConfig} :
    config.validate = .ok () ↔
      isBlankText config.baseUrl = false ∧ hasScheme config.baseUrl = true ∧
        isBlankText config.csrfHeader = false ∧ config.pageSize ≠ 0 := by
  unfold validate
  constructor
  · intro accepted
    split_ifs at accepted with blank schemeless headless empty
    exact ⟨by simpa using blank, by simpa using schemeless, by simpa using headless, empty⟩
  · rintro ⟨inhabited, schemed, headed, sized⟩
    simp [inhabited, schemed, headed, sized]

/-- A URL with a scheme has its parts. -/
theorem exists_parts {url : String} (named : hasScheme url = true) :
    ∃ scheme server slashes, Parts url scheme server slashes := by
  have behind {scheme : String} (known : scheme = "http:" ∨ scheme = "https:")
      (begins : (scheme ++ "//").toList <+: url.toList) :
      ∃ scheme server slashes, Parts url scheme server slashes := by
    obtain ⟨rest, split⟩ := begins
    obtain ⟨slashes, trimmed⟩ := exists_dropTrailing_append '/' rest
    refine ⟨scheme, String.ofList (dropTrailing '/' rest), slashes, known, ?_, ?_⟩
    · apply String.toList_injective
      rw [String.toList_append, String.toList_append, String.toList_ofList, String.toList_ofList,
        List.append_assoc, ← trimmed, split]
    · rw [String.toList_ofList]
      exact getLast?_dropTrailing_ne '/' rest
  rw [hasScheme, Bool.or_eq_true, List.isPrefixOf_iff_prefix, List.isPrefixOf_iff_prefix] at named
  rcases named with plain | secure
  · exact behind (.inl rfl) plain
  · exact behind (.inr rfl) secure

/-- Without the slashes at its end, a URL ends with the server, or with the scheme if no server
follows it. -/
theorem Parts.trimmed {url scheme server : String} {slashes : Nat}
    (parts : Parts url scheme server slashes) :
    String.ofList (dropTrailing '/' url.toList) =
      if server = "" then scheme else scheme ++ "//" ++ server := by
  have trimmed {front : String} {count : Nat} (ended : front.toList.getLast? ≠ some '/') :
      String.ofList (dropTrailing '/' (front.toList ++ List.replicate count '/')) = front := by
    rw [dropTrailing_append_replicate, dropTrailing_eq_self ended, String.ofList_toList]
  have written := congrArg String.toList parts.written
  rw [String.toList_append, String.toList_ofList] at written
  split
  next empty =>
    -- The slashes of the scheme are at the end as well.
    have slashed : url.toList = scheme.toList ++ List.replicate (2 + slashes) '/' := by
      rw [written, empty, List.replicate_add, ← List.append_assoc]
      simp
    have colon : scheme.toList.getLast? ≠ some '/' := by
      rcases parts.known with rfl | rfl <;> decide
    rw [slashed, trimmed colon]
  next inhabited =>
    have last : (scheme ++ "//" ++ server).toList.getLast? ≠ some '/' := by
      have nonempty : server.toList ≠ [] := by simpa using inhabited
      rw [String.toList_append, List.getLast?_append_of_ne_nil _ nonempty]
      exact parts.ended
    rw [written, trimmed last]

end ClientConfig

namespace MarketplaceClient

open ClientConfig

/-- The request of a call goes to the path of the call below the URL of the gateway. -/
theorem exists_sent (config : ClientConfig) (transport : Transport σ) (call : Resource.Call α)
    (world : World σ) :
    ∃ request, ((call.perform (gatewayFor config transport)).behind world).sent =
        world.sent ++ [request] ∧
      request.url = String.ofList (dropTrailing '/' config.baseUrl.toList) ++ call.base.path := by
  obtain ⟨body, written⟩ := call.exists_body
  have sent := (call.sends (gatewayFor config transport)).sent world
  rw [Gateway.Call.requests, written] at sent
  exact ⟨_, sent, (Interceptor.standard_keeps _ _ _).2.1⟩

/-- **Absolute URLs.** Settings that are valid make a client, and their URL consists of a scheme, a
server and further slashes. Every call of the server, in every state of the world, hands one request
to the transport. If there is a server, the URL of the request is the scheme, the server and the
path of the call; if there is none, it is the scheme without its slashes and the path. -/
theorem sent_below_server (config : ClientConfig) (transport : Transport σ)
    (accepted : config.validate = .ok ()) :
    ∃ client, MarketplaceClient.create config transport = .ok client ∧
      (∃ scheme server slashes, Parts config.baseUrl scheme server slashes) ∧
      ∀ scheme server slashes, Parts config.baseUrl scheme server slashes →
        ∀ {α : Type} (call : Resource.Call α) (world : World σ), ∃ request,
          ((call.perform client.gateway).behind world).sent = world.sent ++ [request] ∧
          (server ≠ "" → request.url = scheme ++ "//" ++ server ++ call.base.path) ∧
          (server = "" → request.url = scheme ++ call.base.path) := by
  refine ⟨{ config, gateway := gatewayFor config transport }, ?_,
    exists_parts (validate_eq_ok_iff.mp accepted).2.1, ?_⟩
  · rw [create, accepted]
    rfl
  · intro scheme server slashes parts α call world
    obtain ⟨request, sent, url⟩ := exists_sent config transport call world
    rw [parts.trimmed] at url
    refine ⟨request, sent, fun inhabited => ?_, fun empty => ?_⟩
    · rw [url, if_neg inhabited]
    · rw [url, if_pos empty]

/-- The slashes at the end of the URL of a shop do not get between it and the path of the cart. -/
theorem sent_below_server_shop :
    let config : ClientConfig := { baseUrl := "https://geomarket.example/shop//" }
    config.validate = .ok () ∧
      Parts config.baseUrl "https:" "geomarket.example/shop" 2 ∧
      ∃ client, MarketplaceClient.create config scripted = .ok client ∧
        ∃ request, ((Resource.Call.getCart.perform client.gateway).behind { wire := [] }).sent =
            [request] ∧
          request.url = "https://geomarket.example/shop/action/cart" := by
  intro config
  have accepted : config.validate = .ok () := validate_eq_ok_iff.mpr (by decide)
  have parts : Parts config.baseUrl "https:" "geomarket.example/shop" 2 :=
    ⟨.inr rfl, by decide, by decide⟩
  obtain ⟨client, made, _, below⟩ := sent_below_server config scripted accepted
  obtain ⟨request, sent, served, _⟩ :=
    below "https:" "geomarket.example/shop" 2 parts .getCart { wire := [] }
  refine ⟨accepted, parts, client, made, request, sent, ?_⟩
  rw [served (by decide)]
  decide

/-- Settings without a server are valid too, and the URL of a request has neither scheme then. -/
theorem sent_without_server :
    let config : ClientConfig := { baseUrl := "http://" }
    let client : MarketplaceClient (List ScriptEntry) :=
      { config, gateway := gatewayFor config scripted }
    config.validate = .ok () ∧ MarketplaceClient.create config scripted = .ok client ∧
      ∃ request, ((Resource.Call.getCart.perform client.gateway).behind { wire := [] }).sent =
          [request] ∧
        request.url = "http:/action/cart" ∧
        ¬"http://".toList <+: request.url.toList ∧ ¬"https://".toList <+: request.url.toList := by
  intro config client
  have accepted : config.validate = .ok () := validate_eq_ok_iff.mpr (by decide)
  refine ⟨accepted, by rw [create, accepted]; rfl, _, rfl, ?_⟩
  decide +kernel

end MarketplaceClient
end GeoMarket
