import GeoMarket.Json.Reader
import GeoMarket.Record.Codec

/-!
# Values in JSON texts

A text holds a value of a codec when it is one JSON tree and the codec reads that tree. Whether the
text is no tree or the tree no value makes no difference, and no reason is given.
-/
namespace GeoMarket

/-- The value that a text holds. -/
def Codec.decode? {α : Type} (codec : Codec α) (document : String) : Option α :=
  (Json.parse? document).bind (codec.read .direct)

end GeoMarket
