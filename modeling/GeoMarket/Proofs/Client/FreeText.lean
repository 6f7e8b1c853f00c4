import GeoMarket.Proofs.Client.Call
import GeoMarket.Proofs.Http.Headers
import GeoMarket.Proofs.Text.Percent

/-!
# Free text in addresses

Two calls put a free text into the path that they ask for: the verification of a token and the
configuration for a locale. Each of them hands one request to the transport, and the text stands in
the last segment of its URL, percent-encoded. So the text cannot reach another path, and different
texts have different URLs.
-/
namespace GeoMarket

open Http Text

variable {σ α : Type}

/-- A flow hands one request to the transport, which is a verb with a URL before it passes the
interceptors, and has the same verb and URL behind the standard ones. -/
structure Flow.SendsOne (gateway : Gateway σ) (flow : Flow σ α) (method : Method) (url : String) :
    Prop where
  /-- One request is sent, made of the verb and the URL alone. -/
  sent : ∀ world, (flow.behind world).sent =
    world.sent ++ [gateway.handed world.session { method, url }]
  /-- The standard interceptors change neither the verb nor the URL, and add no body. -/
  kept : ∀ fallback, gateway.chain = Interceptor.standard fallback → ∀ session,
    (gateway.handed session { method, url }).method = method ∧
      (gateway.handed session { method, url }).url = url ∧
      (gateway.handed session { method, url }).body = .empty

namespace Resource

/-- A call without headers and body sends its verb and its URL. -/
theorem Call.sendsOne (gateway : Gateway σ) (call : Call α)
    (headless : call.base.headers = []) (bodiless : call.base.body = .ok .empty) :
    Flow.SendsOne gateway (call.perform gateway) call.base.method
      (gateway.baseUrl ++ call.base.path) where
  sent world := by
    have request : call.base.request gateway .empty =
        { method := call.base.method, url := gateway.baseUrl ++ call.base.path } := by
      rw [Gateway.Call.request, headless]
      rfl
    rw [(call.sends gateway).sent world, Gateway.Call.requests, bodiless]
    dsimp only
    rw [request]
  kept fallback standard session := by
    rw [Gateway.handed, standard]
    exact Interceptor.standard_keeps fallback session _

/-- The URL for the verification of a token. -/
def verificationUrl (gateway : Gateway σ) (token : String) : String :=
  gateway.baseUrl ++ "/action/account/token/verify/" ++ Percent.segment token

/-- The URL of the configuration for a locale. -/
def configurationUrl (gateway : Gateway σ) (locale : String) : String :=
  gateway.baseUrl ++ "/action/configuration/" ++ Percent.segment locale

/-- Behind a fixed text, different texts are written differently. -/
theorem segment_behind_injective (front : String) :
    Function.Injective fun text => front ++ Percent.segment text := by
  intro first second same
  exact Percent.segment_injective ((String.append_right_inj front).mp same)

/-- **Free text in addresses.** Whatever a token is, its verification sends one request, a POST to
the URL of the server with the encoded token as its last segment; and whatever a locale is, its
configuration is asked for by one GET of the same kind. The encoded text is made of letters, digits,
four signs and percent signs, so that it stays in its segment, and decodes to the text. So different
tokens have different URLs, and so have different locales. -/
theorem free_text_in_segment (gateway : Gateway σ) :
    (∀ text,
      Flow.SendsOne gateway (verifyToken gateway text) .post (verificationUrl gateway text) ∧
      Flow.SendsOne gateway (getConfiguration gateway text) .get (configurationUrl gateway text) ∧
      (∀ character ∈ (Percent.segment text).toList,
        character.isAlphanum = true ∨ character ∈ ['-', '_', '.', '~', '%']) ∧
      (∀ mark ∈ ['/', '?', '#'], mark ∉ (Percent.segment text).toList) ∧
      Percent.decoded? (Percent.segment text) = some text) ∧
    Function.Injective (verificationUrl gateway) ∧
    Function.Injective (configurationUrl gateway) := by
  refine ⟨fun text => ⟨?_, ?_, fun _ => Percent.mem_segment, fun _ => Percent.notMem_segment,
    Percent.decoded?_segment text⟩, segment_behind_injective _, segment_behind_injective _⟩
  · have sends := (Call.verifyToken text).sendsOne gateway rfl rfl
    have url : gateway.baseUrl ++ verificationPath text = verificationUrl gateway text :=
      String.append_assoc.symm
    exact url ▸ sends
  · have sends := (Call.getConfiguration text).sendsOne gateway rfl rfl
    have url : gateway.baseUrl ++ configurationPath text = configurationUrl gateway text :=
      String.append_assoc.symm
    exact url ▸ sends

end Resource
end GeoMarket
