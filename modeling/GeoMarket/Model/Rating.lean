import GeoMarket.Model.Error
import GeoMarket.Model.Timestamp
import GeoMarket.Record.Fields

/-!
# Ratings

Consumers rate assets and their providers on a scale from zero to five.
-/
namespace GeoMarket

/-- A rating. -/
structure Rating where
  /-- The account that left the rating. -/
  account : Option Uuid
  /-- The value on the scale. -/
  value : Binary64
  /-- A remark. -/
  comment : Option String
  /-- When the rating was left. -/
  createdOn : Option Timestamp
  deriving BEq

namespace Rating

/-- The members of a rating. -/
def record : Record Rating :=
  (Record.field (.optional "account" Uuid.codec) <|
    Record.field (.required "value" .amount) <|
    Record.field (.optional "comment" .text) <|
    Record.field (.optional "createdOn" Timestamp.codec) <|
    Record.empty).isomorphic
    (fun (account, value, comment, createdOn, ()) => ⟨account, value, comment, createdOn⟩)
    (fun rating => (rating.account, rating.value, rating.comment, rating.createdOn, ()))

/-- The codec of ratings. -/
def codec : Codec Rating := record.codec

/-- The negative zero, with which a sum begins: it changes no summand. -/
def nothingSummed : Binary64 := Binary64.zero.negate

/-- The average of some ratings, summed from the first to the last; no ratings have none. -/
def average? (ratings : List Rating) : Option Binary64 :=
  if ratings.isEmpty then none
  else
    let sum := ratings.foldl (fun sum rating => sum.add rating.value) nothingSummed
    some (sum.div (Binary64.ofNat ratings.length))

end Rating

/-- A command that leaves a rating. -/
structure RatingCommand where
  /-- The value on the scale. -/
  value : Binary64
  /-- A remark. -/
  comment : Option String
  deriving BEq

namespace RatingCommand

/-- The end of the scale. -/
def greatest : Binary64 := Binary64.ofNat 5

/-- A command with a value on the scale. -/
def create (value : Binary64) (comment : Option String) : Except ModelError RatingCommand :=
  if Binary64.zero.le value && value.le greatest then .ok ⟨value, comment⟩
  else .error (.ratingOutOfRange value)

/-- The members of a rating command. -/
def record : Record RatingCommand :=
  (Record.field (.required "value" .amount) <|
    Record.field { Field.omitted "comment" .text with absentInRow := none } <|
    Record.empty).isomorphic
    (fun (value, comment, ()) => ⟨value, comment⟩)
    (fun command => (command.value, command.comment, ()))

end RatingCommand
end GeoMarket
