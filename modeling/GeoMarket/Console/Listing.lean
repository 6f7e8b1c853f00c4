import GeoMarket.Model.Account
import GeoMarket.Model.Cart
import GeoMarket.Model.Rating

/-!
# Listings

What the command line prints of the results of the server. Amounts have two decimal places and
ratings one.
-/
namespace GeoMarket.Console

/-- Texts as lines. -/
def lines (texts : List String) : String := String.join (texts.map (· ++ "\n"))

/-- An amount of money. -/
def amountText (amount : Binary64) : String := amount.fixedText 2

/-- A value on the scale of ratings. -/
def ratingText (value : Binary64) : String := value.fixedText 1

/-- A message of the server. -/
def messageText (message : Message) : String :=
  message.level.title ++ " " ++ message.code ++ (message.description.map (": " ++ ·)).getD ""

/-- The messages of the server. -/
def messageListing (messages : List Message) : String := lines (messages.map messageText)

/-- A file type of assets. -/
def fileTypeText (type : FileType) : String :=
  "  " ++ type.format ++ " (" ++ type.category ++ "): " ++ Text.joinWith ", " type.extensions

/-- The configuration of the server. -/
def configurationListing (configuration : Configuration) : String :=
  lines <|
    ("Auth providers: " ++ Text.joinWith ", " (configuration.authProviders.map (·.name)))
      :: ("Asset file types: " ++ toString configuration.asset.fileTypes.length)
      :: configuration.asset.fileTypes.map fileTypeText

/-- The title of an item. -/
def titleText (item : CatalogueItem) : String := item.metadata.title.getD "(untitled)"

/-- The price of the cheapest pricing model of an item. -/
def cheapestText (item : CatalogueItem) : String :=
  match item.cheapest? with
  | some model => amountText model.totalPrice ++ " " ++ model.totals.currency
  | none => "-"

/-- An item among those that a search has found. -/
def foundText (item : CatalogueItem) : String :=
  item.id.text ++ "  " ++ titleText item ++ "  [" ++ (item.publisher.map (·.name)).getD "-"
    ++ "]  from " ++ cheapestText item

/-- A page of items that a search has found; pages are counted from one, in words of 32 bits, so
that the page with the greatest index is shown as page 0. -/
def pageListing (page : ResultPage CatalogueItem) : String :=
  lines <|
    ("Page " ++ toString (page.pageRequest.page + 1).toNat ++ " of "
        ++ toString (max page.pageCount 1) ++ " (" ++ toString page.count.toNat
        ++ " item(s) total)")
      :: page.items.map foundText

/-- A pricing model of an item. -/
def pricingText (model : PricingModel) : String :=
  let totals := model.totals
  "    " ++ model.kind.name ++ " " ++ totals.id.text ++ ": "
    ++ amountText totals.totalPriceExcludingTax ++ " + " ++ amountText totals.tax ++ " tax = "
    ++ amountText totals.totalPrice ++ " " ++ totals.currency

/-- An item of the catalogue. -/
def itemListing (item : CatalogueItem) : String :=
  let keywords := item.metadata.keywords
  lines <|
    [titleText item, "  Id: " ++ item.id.text]
      ++ (item.metadata.abstractText.map ("  Abstract: " ++ ·)).toList
      ++ (if keywords.isEmpty then [] else ["  Keywords: " ++ Text.joinWith ", " keywords])
      ++ "  Pricing models:" :: item.pricingModels.map pricingText

/-- An entry of the cart. -/
def entryText (entry : CartItem) : String :=
  entry.id.text ++ "  " ++ titleText entry.product ++ "  " ++ entry.pricingModel.kind.name ++ " "
    ++ amountText entry.pricingModel.totalPrice

/-- The cart. -/
def cartListing (cart : Cart) : String :=
  lines <|
    if cart.isEmpty then ["Cart is empty"]
    else
      cart.items.map entryText
        ++ ["Total: " ++ amountText cart.totalPrice ++ " " ++ cart.currency ++ " ("
          ++ amountText cart.taxTotal ++ " tax, " ++ toString cart.totalItems.toNat
          ++ " item(s))"]

/-- A rating. -/
def ratingLine (rating : Rating) : String :=
  "  " ++ ratingText rating.value ++ "  " ++ rating.comment.getD ""

/-- The average of some ratings. -/
def averageText (ratings : List Rating) : String :=
  match Rating.average? ratings with
  | some average => toString ratings.length ++ " rating(s), average " ++ ratingText average
  | none => "No ratings"

/-- Some ratings. -/
def ratingListing (ratings : List Rating) : String :=
  lines (averageText ratings :: ratings.map ratingLine)

end GeoMarket.Console
