import GeoMarket.Record.Codec

/-!
# Roles

A role is a tag that the server grants to an account. Five tags have a meaning for the client;
every other tag is kept as it is, so the tags of an account survive reading and writing.
-/
namespace GeoMarket

/-- A role of an account. -/
inductive Role
  /-- Every account that has signed in. -/
  | user
  /-- An administrator. -/
  | admin
  /-- A provider of assets. -/
  | provider
  /-- A consumer of assets. -/
  | consumer
  /-- A member of the help desk. -/
  | helpdesk
  /-- A role without a meaning for the client. -/
  | other (tag : String)
  deriving DecidableEq

namespace Role

/-- The tag of a role. -/
def tag : Role → String
  | user => "ROLE_USER"
  | admin => "ROLE_ADMIN"
  | provider => "ROLE_PROVIDER"
  | consumer => "ROLE_CONSUMER"
  | helpdesk => "ROLE_HELPDESK"
  | other tag => tag

/-- The role of a tag. -/
def ofTag (tag : String) : Role :=
  if tag = "ROLE_USER" then user
  else if tag = "ROLE_ADMIN" then admin
  else if tag = "ROLE_PROVIDER" then provider
  else if tag = "ROLE_CONSUMER" then consumer
  else if tag = "ROLE_HELPDESK" then helpdesk
  else other tag

/-- The tag of the role of a tag is that tag. -/
@[simp] theorem tag_ofTag (tag : String) : (ofTag tag).tag = tag := by
  unfold ofTag
  repeat' split
  all_goals simp_all [Role.tag]

/-- Different tags are different roles. -/
theorem ofTag_injective {left right : String} (same : ofTag left = ofTag right) : left = right := by
  rw [← tag_ofTag left, same, tag_ofTag]

/-- The codec of roles. -/
def codec : Codec Role := Codec.text.refine (fun tag => some (ofTag tag)) tag

end Role
end GeoMarket
