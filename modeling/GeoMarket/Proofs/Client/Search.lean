import GeoMarket.Proofs.Client.Discipline
import GeoMarket.Proofs.Record.Contents

/-!
# Searching

The server sends the publishers of a page beside its items, under their identifiers. Each identifier
has at most one entry there, so the publisher of an item is that of the entry under its identifier,
whatever publisher the item has come with. A search puts it into each item of a page of success, and
changes nothing else.
-/
namespace GeoMarket

variable {σ : Type} {reading : Reading}

/-! ## Publishers under their identifiers -/

namespace PublisherDirectory

/-- A further entry replaces the one before under its identifier. -/
theorem nodup_insert {directory : PublisherDirectory} (distinct : (directory.map Prod.fst).Nodup)
    (id : Uuid) (publisher : Publisher) : ((directory.insert id publisher).map Prod.fst).Nodup := by
  have others : ((directory.filter fun entry => entry.1 != id).map Prod.fst).Nodup :=
    distinct.sublist (List.filter_sublist.map Prod.fst)
  refine List.nodup_cons.mpr ⟨fun twice => ?_, others⟩
  obtain ⟨entry, among, same⟩ := List.mem_map.mp twice
  exact bne_iff_ne.mp (List.mem_filter.mp among).2 same

/-- Members that are read into a directory leave at most one entry under each identifier. -/
theorem nodup_of_ofMembers? {directory found : PublisherDirectory} {members : List (String × Json)}
    (distinct : (directory.map Prod.fst).Nodup)
    (read : ofMembers? reading directory members = some found) : (found.map Prod.fst).Nodup := by
  induction members generalizing directory with
  | nil =>
    obtain rfl : directory = found := Option.some.inj read
    exact distinct
  | cons member rest ih =>
    obtain ⟨key, tree⟩ := member
    simp only [ofMembers?, Option.bind_eq_bind, Option.bind_eq_some_iff] at read
    obtain ⟨id, -, publisher, -, others⟩ := read
    exact ih (nodup_insert distinct id publisher) others

/-- A directory that is read has at most one entry under each identifier. -/
theorem nodup_of_read {tree : Json} {directory : PublisherDirectory}
    (read : codec.read reading tree = some directory) : (directory.map Prod.fst).Nodup := by
  cases tree with
  | obj members =>
    have start : (([] : PublisherDirectory).map Prod.fst).Nodup := .nil
    exact nodup_of_ofMembers? start read
  | _ => cases read

/-- The publisher under an identifier is that of its entry. -/
theorem publisher?_eq_some_iff {directory : PublisherDirectory}
    (distinct : (directory.map Prod.fst).Nodup) {id : Uuid} {publisher : Publisher} :
    directory.publisher? id = some publisher ↔ (id, publisher) ∈ directory := by
  induction directory with
  | nil => simp [publisher?]
  | cons entry rest ih =>
    obtain ⟨other, first⟩ := entry
    obtain ⟨once, distinct⟩ := List.nodup_cons.mp distinct
    have further := ih distinct
    by_cases here : other = id
    · subst here
      have absent : (other, publisher) ∉ rest := fun inside =>
        once (List.mem_map.mpr ⟨_, inside, rfl⟩)
      simp [publisher?, absent, eq_comm]
    · have apart : id ≠ other := Ne.symm here
      simpa [publisher?, here, apart] using further

/-- An item is supplied from a directory: its publisher becomes that of the entry under the
identifier that the item names, or none if there is no entry, and nothing else changes. -/
structure Supplies (directory : PublisherDirectory) (item supplied : CatalogueItem) : Prop where
  /-- But for the publisher, the item is what it was. -/
  same : { supplied with publisher := item.publisher } = item
  /-- The publisher is that of the entry. -/
  entry : ∀ publisher, supplied.publisher = some publisher ↔
    (item.publisherId, publisher) ∈ directory

/-- An item is supplied in one way only. -/
theorem Supplies.unique {directory : PublisherDirectory} {item first second : CatalogueItem}
    (one : directory.Supplies item first) (other : directory.Supplies item second) :
    first = second := by
  have publisher : first.publisher = second.publisher :=
    Option.ext fun publisher => (one.entry publisher).trans (other.entry publisher).symm
  have rest := one.same.trans other.same.symm
  cases first
  cases second
  simp_all

end PublisherDirectory

/-! ## Pages with publishers -/

namespace SearchEnvelope

/-- A response is what becomes of an envelope when the publishers are joined to the items of a
successful page. -/
structure Joins (envelope : SearchEnvelope) (response : SearchResponse) : Prop where
  /-- The messages stay. -/
  messages : response.messages = envelope.response.messages
  /-- The flag of success stays. -/
  success : response.success = envelope.response.success
  /-- Without success or without a page, everything stays. -/
  untouched : envelope.response.success = false ∨ envelope.response.result = none →
    response = envelope.response
  /-- Each item of a successful page is supplied in its place, and the rest of the page stays. -/
  page : envelope.response.success = true → ∀ page, envelope.response.result = some page →
    ∃ joined, response.result = some joined ∧ joined.pageRequest = page.pageRequest ∧
      joined.count = page.count ∧
      List.Forall₂ envelope.publishers.Supplies page.items joined.items

/-- An envelope that is read has at most one publisher under each identifier. -/
theorem nodup_publishers {tree : Json} {envelope : SearchEnvelope}
    (read : codec.read reading tree = some envelope) :
    (envelope.publishers.map Prod.fst).Nodup := by
  cases tree with
  | obj members =>
    change record.ofMembers? reading members = some envelope at read
    obtain ⟨-, read⟩ := Record.ofMembers?_eq_some_iff.mp read
    obtain ⟨⟨response, publishers, _⟩, parts, rfl⟩ := Record.read_isomorphic_iff.mp read
    have own := (Record.read_field_iff.mp (Record.read_append_iff.mp parts).2).1
    rcases Field.read_defaulted_iff.mp own with ⟨tree, -, found⟩ | ⟨-, rfl⟩
    · exact PublisherDirectory.nodup_of_read found
    · exact List.nodup_nil
  | _ => cases read

/-- Joining supplies an item with its publisher. -/
theorem supplies_joinItem {publishers : PublisherDirectory}
    (distinct : (publishers.map Prod.fst).Nodup) (item : CatalogueItem) :
    publishers.Supplies item (joinItem publishers item) :=
  ⟨rfl, fun _ => PublisherDirectory.publisher?_eq_some_iff distinct⟩

/-- The joined response is what becomes of an envelope with distinct publishers. -/
theorem joins_joined {envelope : SearchEnvelope}
    (distinct : (envelope.publishers.map Prod.fst).Nodup) : envelope.Joins envelope.joined := by
  obtain ⟨⟨messages, result, success⟩, publishers⟩ := envelope
  cases success with
  | false => exact ⟨rfl, rfl, fun _ => rfl, nofun⟩
  | true =>
    cases result with
    | none => exact ⟨rfl, rfl, fun _ => rfl, fun _ _ => nofun⟩
    | some page =>
      refine ⟨rfl, rfl, nofun, ?_⟩
      rintro - _ ⟨⟩
      refine ⟨_, rfl, rfl, rfl, ?_⟩
      rw [List.forall₂_map_right_iff, List.forall₂_same]
      exact fun item _ => supplies_joinItem distinct item

/-- There is one response only that joins the publishers to an envelope. -/
theorem Joins.unique {envelope : SearchEnvelope} {first second : SearchResponse}
    (one : envelope.Joins first) (other : envelope.Joins second) : first = second := by
  by_cases plain : envelope.response.success = false ∨ envelope.response.result = none
  · exact (one.untouched plain).trans (other.untouched plain).symm
  · obtain ⟨failed, paged⟩ := not_or.mp plain
    have succeeded := eq_true_of_ne_false failed
    obtain ⟨page, found⟩ := Option.ne_none_iff_exists'.mp paged
    obtain ⟨left, leftFound, leftRequest, leftCount, leftItems⟩ := one.page succeeded page found
    obtain ⟨right, rightFound, rightRequest, rightCount, rightItems⟩ :=
      other.page succeeded page found
    have supplied : Relator.RightUnique envelope.publishers.Supplies :=
      fun _ _ _ => PublisherDirectory.Supplies.unique
    have items : left.items = right.items := supplied.forall₂ leftItems rightItems
    have pages : left = right := by
      cases left
      cases right
      simp_all
    have messages := one.messages.trans other.messages.symm
    have success := one.success.trans other.success.symm
    cases first
    cases second
    simp_all

/-- The response to an envelope that was read is the one that joins its publishers. -/
theorem joined_eq_iff {tree : Json} {envelope : SearchEnvelope}
    (read : codec.read reading tree = some envelope) (response : SearchResponse) :
    envelope.joined = response ↔ envelope.Joins response := by
  have joins := joins_joined (nodup_publishers read)
  constructor
  · rintro rfl
    exact joins
  · exact joins.unique

end SearchEnvelope

/-! ## The call -/

namespace Resource

variable (gateway : Gateway σ) (query : CatalogueQuery)

/-- The request of a search, as it is handed to the transport in a session. -/
def findRequest (session : Session) : Http.Request :=
  gateway.handed session
    { method := .post
      url := gateway.url cataloguePath
      body := .json (CatalogueQuery.record.codec.write query) }

/-- A search sends its request, notes how many publishers were found, and joins them to the
items. -/
theorem find_eq :
    find gateway query =
      gateway.send SearchEnvelope.codec
        { method := .post
          url := gateway.url cataloguePath
          body := .json (CatalogueQuery.record.codec.write query) } >>= fun outcome =>
        Flow.noting
          (outcome.toOption.toList.map fun reply => .publishersFound reply.data.publishers.length)
          (outcome.map fun reply => reply.data.joined) :=
  Call.perform_find gateway query

/-- A search ends with the joined response of the answer. -/
theorem value_find (world : World σ) :
    (find gateway query).value world =
      (gateway.answer SearchEnvelope.codec (findRequest gateway query world.session)
        world.wire).map fun reply => reply.data.joined := by
  rw [find_eq, Flow.value_bind, Flow.value_noting, Gateway.value_send]
  rfl

/-- A search sends its request and no other. -/
theorem sent_find (world : World σ) :
    ((find gateway query).behind world).sent =
      world.sent ++ [findRequest gateway query world.session] := by
  rw [find_eq, Flow.behind_bind, Flow.behind_noting, Gateway.behind_send, World.sent_append,
    Happening.filterMap_request?_noted, List.append_nil, Gateway.sent_answered]
  rfl

/-- A search leaves the transport in the state behind its request. -/
theorem wire_find (world : World σ) :
    ((find gateway query).behind world).wire =
      (gateway.transport (findRequest gateway query world.session) world.wire).2 := by
  rw [find_eq, Flow.behind_bind, Flow.behind_noting, Gateway.behind_send]
  rfl

/-- A search ends with a response exactly if an answer with a status of success holds an envelope
from which the response is joined. -/
theorem value_find_eq_ok_iff (world : World σ) (response : SearchResponse) :
    (find gateway query).value world = .ok response ↔
      ∃ envelope,
        (∃ answer,
          (gateway.transport (findRequest gateway query world.session) world.wire).1 = .ok answer ∧
          200 ≤ answer.status ∧ answer.status ≤ 299 ∧
          SearchEnvelope.codec.decode? answer.body = some envelope) ∧
        envelope.joined = response := by
  have brings := (gateway.concludes_answer SearchEnvelope.codec
    (findRequest gateway query world.session) world.wire).map_data_eq_ok_iff
  rw [value_find]
  simp only [← brings]
  cases gateway.answer SearchEnvelope.codec _ world.wire <;> simp [Except.map]

/-- **Searching joins the publishers.** An envelope that was read has one response. Messages and
flag of success are those of the envelope. If it reports success and has a page, the page in the
response has the same request and count, and as many items in the same order; each is the item of
the envelope with the publisher that the envelope holds under the identifier that the item names, or
with none if there is no such entry. Otherwise the response is the one of the envelope, unchanged. A
search sends one request, and ends with this response exactly if the answer has a status of success
and its body holds the envelope. -/
theorem find_joins (gateway : Gateway σ) (query : CatalogueQuery) :
    (∀ (reading : Reading) (tree : Json) (envelope : SearchEnvelope),
      SearchEnvelope.codec.read reading tree = some envelope →
      ∀ response, envelope.joined = response ↔ envelope.Joins response) ∧
    ∀ world : World σ,
      let request := findRequest gateway query world.session
      let ending := (find gateway query).value world
      let after := (find gateway query).behind world
      after.sent = world.sent ++ [request] ∧
      after.wire = (gateway.transport request world.wire).2 ∧
      ∀ response, ending = .ok response ↔
        ∃ envelope,
          (∃ answer, (gateway.transport request world.wire).1 = .ok answer ∧
            200 ≤ answer.status ∧ answer.status ≤ 299 ∧
            SearchEnvelope.codec.decode? answer.body = some envelope) ∧
          envelope.Joins response := by
  refine ⟨fun _ _ _ read => SearchEnvelope.joined_eq_iff read, fun world => ?_⟩
  refine ⟨sent_find gateway query world, wire_find gateway query world, fun response => ?_⟩
  refine (value_find_eq_ok_iff gateway query world response).trans ?_
  refine exists_congr fun envelope => and_congr_right ?_
  rintro ⟨answer, -, -, -, decoded⟩
  obtain ⟨tree, -, read⟩ := Option.bind_eq_some_iff.mp decoded
  exact SearchEnvelope.joined_eq_iff read response

/-- Of two items, one gets the publisher that stands beside the page, and the other one loses the
publisher that it has come with. -/
theorem find_joins_two_items :
    let acme := "00000000-0000-0000-0000-00000000000a"
    let other := "00000000-0000-0000-0000-00000000000b"
    let items : List Json :=
      [.obj [("id", acme), ("publisherId", acme)],
        .obj [("id", other), ("publisherId", other),
          ("publisher", .obj [("id", other), ("name", "Old Maps")])]]
    let page : Json :=
      .obj [("pageRequest", .obj [("page", .ofNat 0), ("size", .ofNat 10)]), ("count", .ofNat 2),
        ("items", .arr items)]
    let tree : Json :=
      .obj [("success", .bool true), ("result", page),
        ("publishers", .obj [(acme, .obj [("id", acme), ("name", "Acme Geo")])])]
    let names (response : SearchResponse) : Option (List (Option String)) :=
      response.result.map fun page => page.items.map fun item => item.publisher.map Publisher.name
    ∃ envelope, SearchEnvelope.codec.read .direct tree = some envelope ∧
      names envelope.response = some [none, some "Old Maps"] ∧
      envelope.Joins envelope.joined ∧ names envelope.joined = some [some "Acme Geo", none] := by
  intro acme other items page tree names
  have computed : (SearchEnvelope.codec.read .direct tree).map
      (fun envelope => (names envelope.response, names envelope.joined)) =
        some (some [none, some "Old Maps"], some [some "Acme Geo", none]) := by decide +kernel
  obtain ⟨envelope, read, same⟩ := Option.map_eq_some_iff.mp computed
  obtain ⟨before, after⟩ := Prod.mk.inj same
  have joins := (find_joins (Gateway.create "" [] Http.scripted) (.ofText "maps")).1 .direct tree
    envelope read
  exact ⟨envelope, read, before, (joins envelope.joined).mp rfl, after⟩

end Resource

end GeoMarket
