import GeoMarket.Proofs.Model.Arrangement
import GeoMarket.Proofs.Navigation.Admission
import GeoMarket.Proofs.Record.Replacement

/-!
# Roles are the tags of the server

An account may be granted any list of tags: it is still read, nothing but its roles changes, and the
roles are the tags again when it is written. A tag and its role tell the same, so the session of the
user has the role of a tag exactly when the server has granted the tag, in these very letters.
-/
namespace GeoMarket

namespace Role

/-- The role of a tag is among the roles of tags if the tag is among the tags. -/
theorem ofTag_mem_map {tag : String} {tags : List String} :
    ofTag tag ∈ tags.map ofTag ↔ tag ∈ tags :=
  List.mem_map_of_injective fun _ _ => ofTag_injective

/-- Any list of tags is read as a list of roles. -/
theorem read_tags (reading : Reading) (tags : List String) :
    codec.listOf.read reading (.arr (tags.map .str)) = some (tags.map ofTag) := by
  refine Codec.read_listOf_iff.mpr ⟨_, rfl, ?_⟩
  rw [List.forall₂_map_left_iff, List.forall₂_map_right_iff, List.forall₂_same]
  intro tag _
  exact Codec.read_refine_iff.mpr ⟨tag, rfl, rfl⟩

/-- The roles of tags are written as the tags, in order and as often as they occur. -/
theorem write_tags (tags : List String) :
    codec.listOf.write (tags.map ofTag) = .arr (tags.map .str) := by
  change Json.arr ((tags.map ofTag).map codec.write) = _
  rw [List.map_map]
  have written : ∀ tag ∈ tags, (codec.write ∘ ofTag) tag = .str tag := fun tag _ =>
    congrArg Json.str (tag_ofTag tag)
  rw [List.map_congr_left written]

end Role

namespace Account

/-- The roles of an account may be replaced; they stand behind the name of the user, which an array
has to have. -/
theorem replaces_roles :
    record.Replaces (.defaulted "roles" Role.codec.listOf []) 12
      fun roles account => { account with roles } := by
  unfold record
  exact .isomorphic
    (.there <| .there <| .there <| .there <| .there <| .there <| .there <| .there <| .there <|
      .there <| .there <| .there <| .here (by decide) nofun)
    (fun _ _ => rfl) (fun _ _ => rfl)

/-- **Roles are the tags of the server.** An account may be granted any list of tags in place of its
roles, and nothing else about it changes. When the session has taken over the account, it has the
role of a tag if and only if the tag is in the list; and the account is written with the same
list. -/
theorem roles_are_tags {reading : Reading} {tree : Json} {account : Account}
    (read : codec.read reading tree = some account) (tags : List String) :
    (∃ granted, Json.Replaced "roles" 12 (.arr (tags.map .str)) tree granted) ∧
      ∀ granted, Json.Replaced "roles" 12 (.arr (tags.map .str)) tree granted →
        ∃ decoded, codec.read reading granted = some decoded ∧
          decoded = { account with roles := decoded.roles } ∧
          (∀ (session : Session) (tag : String),
            (session.apply (.setUserData decoded)).hasRole (.ofTag tag) = true ↔ tag ∈ tags) ∧
          ∃ members, codec.write decoded = .obj members ∧
            members.filter (fun member => member.1 == "roles") =
              [("roles", .arr (tags.map .str))] := by
  have roles := Role.read_tags reading tags
  refine ⟨replaces_roles.exists_replaced read roles, fun granted replaced => ?_⟩
  have decodes := replaces_roles.read_codec read replaced roles
  refine ⟨_, decodes, rfl, fun session tag => ?_, _, rfl, ?_⟩
  · rw [Session.hasRole_iff]
    exact Role.ofTag_mem_map
  · rw [← Role.write_tags]
    exact replaces_roles.written account _

/-- An account is granted a tag without a meaning for the client, one tag twice and one in small
letters: the session has the roles of these tags, but not the one that the account had before. -/
theorem roles_are_tags_auditor :
    let tree : Json := .obj [("roles", .arr ["ROLE_USER"]), ("email", "a@b.eu"), ("username", "a")]
    let tags := ["ROLE_AUDITOR", "ROLE_ADMIN", "role_user", "ROLE_ADMIN"]
    let granted : Json :=
      .obj [("email", "a@b.eu"), ("roles", .arr (tags.map .str)), ("username", "a")]
    ∃ account, codec.read .direct tree = some account ∧ account.roles = [.user] ∧
      ∃ decoded, codec.read .direct granted = some decoded ∧
        (∀ session : Session,
          (session.apply (.setUserData decoded)).hasRole (.other "ROLE_AUDITOR") = true ∧
          (session.apply (.setUserData decoded)).hasRole .admin = true ∧
          (session.apply (.setUserData decoded)).hasRole (.other "role_user") = true ∧
          (session.apply (.setUserData decoded)).hasRole .user = false) ∧
        ∃ members, codec.write decoded = .obj members ∧
          members.filter (fun member => member.1 == "roles") =
            [("roles", .arr (tags.map .str))] := by
  intro tree tags granted
  obtain ⟨account, read, before⟩ :
      ∃ account, codec.read .direct tree = some account ∧ account.roles = [.user] := ⟨_, rfl, rfl⟩
  have replaced : Json.Replaced "roles" 12 (.arr (tags.map .str)) tree granted :=
    @Json.Replaced.member _ _ _ _ [("email", "a@b.eu")] [("username", "a")] rfl
  obtain ⟨decoded, decodes, -, has, written⟩ := (roles_are_tags read tags).2 granted replaced
  have lacks (session : Session) : (session.apply (.setUserData decoded)).hasRole .user = false := by
    refine Bool.eq_false_iff.mpr fun granted => ?_
    have listed : "ROLE_USER" ∈ tags := (has session "ROLE_USER").mp granted
    exact absurd listed (by decide)
  refine ⟨account, read, before, decoded, decodes, fun session => ⟨?_, ?_, ?_, lacks session⟩, written⟩
  · exact (has session "ROLE_AUDITOR").mpr (by decide)
  · exact (has session "ROLE_ADMIN").mpr (by decide)
  · exact (has session "role_user").mpr (by decide)

end Account
end GeoMarket
