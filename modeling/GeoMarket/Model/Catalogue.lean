import GeoMarket.Json.Settled
import GeoMarket.Model.Envelope
import GeoMarket.Model.Page
import GeoMarket.Model.Pricing
import GeoMarket.Model.Timestamp

/-!
# The catalogue

Items of the catalogue with their metadata, pricing models and publishers, the commands that
search and extend the catalogue, and the joining of a page of items with the publishers that the
server sends beside it.
-/
namespace GeoMarket

/-- A full text query. -/
structure CatalogueQuery where
  /-- The words to look for. -/
  query : String
  /-- The index of the page. -/
  page : UInt32
  /-- The size of a page. -/
  size : UInt32
  deriving DecidableEq

namespace CatalogueQuery

/-- The query for the first page. -/
def ofText (query : String) : CatalogueQuery :=
  ⟨query, PageRequest.first.page, PageRequest.first.size⟩

/-- The page that is asked for. -/
def pageRequest (query : CatalogueQuery) : PageRequest := ⟨query.page, query.size⟩

/-- The members of a query. -/
def record : Record CatalogueQuery :=
  (Record.field (.required "query" .text) <|
    Record.field (.required "page" .word32) <|
    Record.field (.required "size" .word32) <|
    Record.empty).isomorphic
    (fun (query, page, size, ()) => ⟨query, page, size⟩)
    (fun query => (query.query, query.page, query.size, ()))

end CatalogueQuery

/-- The codec of a free JSON value. -/
def documentCodec : Codec Json.Document where
  read _ tree := Json.document? tree
  write document := document.tree

/-- The description of a resource. -/
structure Metadata where
  /-- An abstract of the resource. -/
  abstractText : Option String := none
  /-- Auxiliary files and other resources. -/
  additionalResources : Option String := none
  /-- The degree of conformity with the rules of the metadata. -/
  conformity : Option String := none
  /-- The datasets that a service works on. -/
  coupledResource : Option String := none
  /-- When the resource was created. -/
  creationDate : Option String := none
  /-- The end of the time covered. -/
  dateEnd : Option String := none
  /-- The start of the time covered. -/
  dateStart : Option String := none
  /-- The file format, medium or dimensions. -/
  format : Option String := none
  /-- The keywords. -/
  keywords : List String := []
  /-- The language of the resource. -/
  language : Option String := none
  /-- The license. -/
  license : Option String := none
  /-- What the producer knows about the history of the data. -/
  lineage : Option String := none
  /-- When the metadata was written. -/
  metadataDate : Option String := none
  /-- The language of the metadata. -/
  metadataLanguage : Option String := none
  /-- The mail address of who answers for the metadata. -/
  metadataPointOfContactEmail : Option String := none
  /-- The name of who answers for the metadata. -/
  metadataPointOfContactName : Option String := none
  /-- The dataset that this one belongs to. -/
  parentId : Option String := none
  /-- Limits on public access. -/
  publicAccessLimitations : Option String := none
  /-- When the resource was published. -/
  publicationDate : Option String := none
  /-- The mail address of the publisher. -/
  publisherEmail : Option String := none
  /-- The name of the publisher. -/
  publisherName : Option String := none
  /-- The reference system of the coordinates. -/
  referenceSystem : Option String := none
  /-- Where the data can be downloaded. -/
  resourceLocator : Option String := none
  /-- When the resource was revised. -/
  revisionDate : Option String := none
  /-- The denominator of the scale. -/
  scale : Option String := none
  /-- The type of a spatial data service. -/
  spatialDataServiceType : Option String := none
  /-- The resolution in space. -/
  spatialResolution : Option String := none
  /-- The title. -/
  title : Option String := none
  /-- The topic. -/
  topicCategory : Option String := none
  /-- The nature or genre of the resource. -/
  resourceType : Option String := none
  /-- The version. -/
  version : Option String := none
  /-- The geometry. -/
  geometry : Option Json.Document := none
  deriving BEq

/-- The members of metadata. -/
def Metadata.record : Record Metadata :=
  (Record.field (.optional "abstractText" .text) <|
    Record.field (.optional "additionalResources" .text) <|
    Record.field (.optional "conformity" .text) <|
    Record.field (.optional "coupledResource" .text) <|
    Record.field (.optional "creationDate" .text) <|
    Record.field (.optional "dateEnd" .text) <|
    Record.field (.optional "dateStart" .text) <|
    Record.field (.optional "format" .text) <|
    Record.field (.defaulted "keywords" Codec.text.listOf []) <|
    Record.field (.optional "language" .text) <|
    Record.field (.optional "license" .text) <|
    Record.field (.optional "lineage" .text) <|
    Record.field (.optional "metadataDate" .text) <|
    Record.field (.optional "metadataLanguage" .text) <|
    Record.field (.optional "metadataPointOfContactEmail" .text) <|
    Record.field (.optional "metadataPointOfContactName" .text) <|
    Record.field (.optional "parentId" .text) <|
    Record.field (.optional "publicAccessLimitations" .text) <|
    Record.field (.optional "publicationDate" .text) <|
    Record.field (.optional "publisherEmail" .text) <|
    Record.field (.optional "publisherName" .text) <|
    Record.field (.optional "referenceSystem" .text) <|
    Record.field (.optional "resourceLocator" .text) <|
    Record.field (.optional "revisionDate" .text) <|
    Record.field (.optional "scale" .text) <|
    Record.field (.optional "spatialDataServiceType" .text) <|
    Record.field (.optional "spatialResolution" .text) <|
    Record.field (.optional "title" .text) <|
    Record.field (.optional "topicCategory" .text) <|
    Record.field (.optional "type" .text) <|
    Record.field (.optional "version" .text) <|
    Record.field (.optional "geometry" documentCodec) <|
    Record.empty).isomorphic
    (fun (abstractText, additionalResources, conformity, coupledResource, creationDate, dateEnd,
        dateStart, format, keywords, language, license, lineage, metadataDate, metadataLanguage,
        metadataPointOfContactEmail, metadataPointOfContactName, parentId, publicAccessLimitations,
        publicationDate, publisherEmail, publisherName, referenceSystem, resourceLocator,
        revisionDate, scale, spatialDataServiceType, spatialResolution, title, topicCategory,
        resourceType, version, geometry, ()) =>
      ⟨abstractText, additionalResources, conformity, coupledResource, creationDate, dateEnd,
        dateStart, format, keywords, language, license, lineage, metadataDate, metadataLanguage,
        metadataPointOfContactEmail, metadataPointOfContactName, parentId, publicAccessLimitations,
        publicationDate, publisherEmail, publisherName, referenceSystem, resourceLocator,
        revisionDate, scale, spatialDataServiceType, spatialResolution, title, topicCategory,
        resourceType, version, geometry⟩)
    (fun data =>
      (data.abstractText, data.additionalResources, data.conformity, data.coupledResource,
        data.creationDate, data.dateEnd, data.dateStart, data.format, data.keywords, data.language,
        data.license, data.lineage, data.metadataDate, data.metadataLanguage,
        data.metadataPointOfContactEmail, data.metadataPointOfContactName, data.parentId,
        data.publicAccessLimitations, data.publicationDate, data.publisherEmail,
        data.publisherName, data.referenceSystem, data.resourceLocator, data.revisionDate,
        data.scale, data.spatialDataServiceType, data.spatialResolution, data.title,
        data.topicCategory, data.resourceType, data.version, data.geometry, ()))

/-- A provider as shown beside its assets. -/
structure Publisher where
  /-- The identifier. -/
  id : Uuid
  /-- The city. -/
  city : Option String
  /-- The country. -/
  country : Option String
  /-- When the provider joined. -/
  joinedAt : Option Timestamp
  /-- The logo. -/
  logoImage : Option String
  /-- The type of the logo. -/
  logoImageMimeType : Option String
  /-- The name. -/
  name : String
  /-- The average rating, if there are ratings. -/
  rating : Option Binary64
  /-- The mail address, if it is verified. -/
  email : Option String
  deriving BEq

namespace Publisher

/-- The members of a publisher. -/
def record : Record Publisher :=
  (Record.field (.required "id" Uuid.codec) <|
    Record.field (.optional "city" .text) <|
    Record.field (.optional "country" .text) <|
    Record.field (.optional "joinedAt" Timestamp.codec) <|
    Record.field (.optional "logoImage" .text) <|
    Record.field (.optional "logoImageMimeType" .text) <|
    Record.field (.required "name" .text) <|
    Record.field (.optional "rating" .amount) <|
    Record.field (.optional "email" .text) <|
    Record.empty).isomorphic
    (fun (id, city, country, joinedAt, logoImage, logoImageMimeType, name, rating, email, ()) =>
      ⟨id, city, country, joinedAt, logoImage, logoImageMimeType, name, rating, email⟩)
    (fun publisher =>
      (publisher.id, publisher.city, publisher.country, publisher.joinedAt, publisher.logoImage,
        publisher.logoImageMimeType, publisher.name, publisher.rating, publisher.email, ()))

/-- The codec of publishers. -/
def codec : Codec Publisher := record.codec

end Publisher

/-- How an asset has been used. -/
structure Statistics where
  /-- The number of downloads. -/
  downloads : UInt64 := 0
  /-- The number of sales. -/
  sales : UInt64 := 0
  /-- The average rating, if there are ratings. -/
  rating : Option Binary64 := none
  deriving BEq

/-- The members of statistics. -/
def Statistics.record : Record Statistics :=
  (Record.field (.defaulted "downloads" .word64 0) <|
    Record.field (.defaulted "sales" .word64 0) <|
    Record.field (.optional "rating" .amount) <|
    Record.empty).isomorphic
    (fun (downloads, sales, rating, ()) => ⟨downloads, sales, rating⟩)
    (fun statistics => (statistics.downloads, statistics.sales, statistics.rating, ()))

/-- An item of the catalogue. -/
structure CatalogueItem where
  /-- The identifier. -/
  id : Uuid
  /-- The description. -/
  metadata : Metadata
  /-- The pricing models on offer. -/
  pricingModels : List PricingModel
  /-- The publisher, once it is joined to the item. -/
  publisher : Option Publisher
  /-- The identifier of the publisher. -/
  publisherId : Uuid
  /-- How the asset has been used. -/
  statistics : Statistics
  deriving BEq

namespace CatalogueItem

/-- The members of an item. -/
def record : Record CatalogueItem :=
  (Record.field (.required "id" Uuid.codec) <|
    Metadata.record.embed.append <|
    Record.field (.defaulted "pricingModels" PricingModel.codec.listOf []) <|
    Record.field (.omitted "publisher" Publisher.codec) <|
    Record.field (.required "publisherId" Uuid.codec) <|
    Record.field (.defaulted "statistics" Statistics.record.codec {}) <|
    Record.empty).isomorphic
    (fun (id, metadata, pricingModels, publisher, publisherId, statistics, ()) =>
      ⟨id, metadata, pricingModels, publisher, publisherId, statistics⟩)
    (fun item =>
      (item.id, item.metadata, item.pricingModels, item.publisher, item.publisherId,
        item.statistics, ()))

/-- The codec of items. -/
def codec : Codec CatalogueItem := record.codec

/-- The pricing model of an item with a given identifier. -/
def pricingModel? (item : CatalogueItem) (id : Uuid) : Option PricingModel :=
  item.pricingModels.find? fun model => model.id == id

/-- The first of the cheapest pricing models of an item. -/
def cheapest? (item : CatalogueItem) : Option PricingModel :=
  PricingModel.cheapest? item.pricingModels

end CatalogueItem

/-- A command that adds an item to the catalogue. -/
structure CatalogueAddItemCommand where
  /-- The description. -/
  metadata : Metadata
  /-- The pricing models to offer. -/
  pricingModels : List PricingModelCommand
  deriving BEq

/-- The members of a command that adds an item. -/
def CatalogueAddItemCommand.record : Record CatalogueAddItemCommand :=
  (Metadata.record.embed.append <|
    Record.field (.required "pricingModels" PricingModelCommand.codec.listOf) <|
    Record.empty).isomorphic
    (fun (metadata, pricingModels, ()) => ⟨metadata, pricingModels⟩)
    (fun command => (command.metadata, command.pricingModels, ()))

/-- Publishers under their identifiers; a later entry replaces an earlier one. -/
abbrev PublisherDirectory := List (Uuid × Publisher)

namespace PublisherDirectory

/-- The directory with one more entry. -/
def insert (directory : PublisherDirectory) (id : Uuid) (publisher : Publisher) :
    PublisherDirectory :=
  (id, publisher) :: directory.filter fun entry => entry.1 != id

/-- Enter members of an object one after another. -/
def ofMembers? (reading : Reading) :
    PublisherDirectory → List (String × Json) → Option PublisherDirectory
  | directory, [] => some directory
  | directory, (key, tree) :: rest => do
    let id ← Uuid.ofText? key
    let publisher ← Publisher.codec.read reading tree
    ofMembers? reading (directory.insert id publisher) rest

/-- The publisher under an identifier. -/
def publisher? (directory : PublisherDirectory) (id : Uuid) : Option Publisher :=
  (List.find? (fun entry => entry.1 == id) directory).map (·.2)

/-- The codec of directories. -/
def codec : Codec PublisherDirectory where
  read
    | reading, .obj members => ofMembers? reading [] members
    | _, _ => none
  write directory :=
    .obj (directory.map fun (id, publisher) => (id.text, Publisher.codec.write publisher))

end PublisherDirectory

/-- The answer to a query, as callers get it. -/
abbrev SearchResponse := Envelope (ResultPage CatalogueItem)

/-- The answer to a query, as the server sends it: the publishers stand beside the page. -/
structure SearchEnvelope where
  /-- The page of items. -/
  response : SearchResponse
  /-- The publishers of its items. -/
  publishers : PublisherDirectory

namespace SearchEnvelope

/-- The members of the answer to a query. -/
def record : Record SearchEnvelope :=
  ((Envelope.record (ResultPage.record CatalogueItem.codec).codec).embed.append <|
    Record.field (.defaulted "publishers" PublisherDirectory.codec []) <|
    Record.empty).isomorphic
    (fun (response, publishers, ()) => ⟨response, publishers⟩)
    (fun envelope => (envelope.response, envelope.publishers, ()))

/-- The codec of answers to a query. -/
def codec : Codec SearchEnvelope := record.codec

/-- An item with its publisher taken from a directory. -/
def joinItem (publishers : PublisherDirectory) (item : CatalogueItem) : CatalogueItem :=
  { item with publisher := publishers.publisher? item.publisherId }

/-- The answer with the publisher of each item of a successful page taken from the directory; an
item whose publisher is not there goes without. -/
def joined (envelope : SearchEnvelope) : SearchResponse :=
  if envelope.response.success then
    envelope.response.map fun page =>
      { page with items := page.items.map (joinItem envelope.publishers) }
  else envelope.response

end SearchEnvelope
end GeoMarket
