import GeoMarket.Model.Configuration
import GeoMarket.Model.Identifier
import GeoMarket.Model.Role
import GeoMarket.Model.Timestamp

/-!
# Accounts

Accounts with their profiles and postal addresses, as the server keeps them, and the commands
that create and change them. A profile and the command that updates it share most of their
members. As their timestamps and amounts, profiles and accounts have two equalities: a program
compares them (`==`) by the moments and the numbers that they state, and `=` tells apart every way
to state them.
-/
namespace GeoMarket

/-- A postal address of a profile. -/
structure Address where
  /-- The key that the server has given to the address. -/
  key : Option Uuid := none
  /-- The street. -/
  streetName : String := ""
  /-- The number in the street. -/
  streetNumber : String := ""
  /-- The city. -/
  city : String := ""
  /-- The region. -/
  region : String := ""
  /-- The country. -/
  country : String := ""
  /-- The postal code. -/
  postalCode : String := ""
  /-- The floor or apartment. -/
  floorApartment : String := ""
  deriving DecidableEq

/-- The members of an address. -/
def Address.record : Record Address :=
  (Record.field (.omitted "key" Uuid.codec) <|
    Record.field (.defaulted "streetName" .text "") <|
    Record.field (.defaulted "streetNumber" .text "") <|
    Record.field (.defaulted "city" .text "") <|
    Record.field (.defaulted "region" .text "") <|
    Record.field (.defaulted "country" .text "") <|
    Record.field (.defaulted "postalCode" .text "") <|
    Record.field (.defaulted "floorApartment" .text "") <|
    Record.empty).isomorphic
    (fun (key, streetName, streetNumber, city, region, country, postalCode, floorApartment, ()) =>
      ⟨key, streetName, streetNumber, city, region, country, postalCode, floorApartment⟩)
    (fun address =>
      (address.key, address.streetName, address.streetNumber, address.city, address.region,
        address.country, address.postalCode, address.floorApartment, ()))

/-- A command that creates or changes an address. -/
structure AddressCommand where
  /-- The street. -/
  streetName : String
  /-- The number in the street. -/
  streetNumber : String
  /-- The city. -/
  city : String
  /-- The region. -/
  region : String
  /-- The country. -/
  country : String
  /-- The postal code. -/
  postalCode : String
  /-- The floor or apartment. -/
  floorApartment : String
  deriving DecidableEq

/-- The members of an address command. -/
def AddressCommand.record : Record AddressCommand :=
  (Record.field (.required "streetName" .text) <|
    Record.field (.required "streetNumber" .text) <|
    Record.field (.required "city" .text) <|
    Record.field (.required "region" .text) <|
    Record.field (.required "country" .text) <|
    Record.field (.required "postalCode" .text) <|
    Record.field (.required "floorApartment" .text) <|
    Record.empty).isomorphic
    (fun (streetName, streetNumber, city, region, country, postalCode, floorApartment, ()) =>
      ⟨streetName, streetNumber, city, region, country, postalCode, floorApartment⟩)
    (fun command =>
      (command.streetName, command.streetNumber, command.city, command.region, command.country,
        command.postalCode, command.floorApartment, ()))

/-- A command that asks for a new activation token. -/
structure ActivationTokenCommand where
  /-- The address that the token is sent to. -/
  email : String
  deriving DecidableEq

/-- The members of an activation token command. -/
def ActivationTokenCommand.record : Record ActivationTokenCommand :=
  (Record.field (.required "email" .text) Record.empty).isomorphic
    (fun (email, ()) => ⟨email⟩) (fun command => (command.email, ()))

/-- What a profile and the command that updates it have in common. -/
structure ProfileFields where
  /-- A description of the provider. -/
  additionalInfo : Option String := none
  /-- The currency of the bank account. -/
  bankAccountCurrency : Option String := none
  /-- The holder of the bank account. -/
  bankAccountHolderName : Option String := none
  /-- The international number of the bank account. -/
  bankAccountIban : Option String := none
  /-- The code of the bank. -/
  bankAccountSwift : Option String := none
  /-- The company. -/
  company : Option String := none
  /-- The legal form of the company. -/
  companyType : Option String := none
  /-- The country. -/
  country : Option String := none
  /-- The telephone code of the country. -/
  countryPhoneCode : Option String := none
  /-- The public address for mail. -/
  email : Option String := none
  /-- The first name. -/
  firstName : Option String := none
  /-- The image of the user. -/
  image : Option String := none
  /-- The type of the image. -/
  imageMimeType : Option String := none
  /-- The last name. -/
  lastName : Option String := none
  /-- The logo of the company. -/
  logoImage : Option String := none
  /-- The type of the logo. -/
  logoImageMimeType : Option String := none
  /-- The number of the mobile telephone. -/
  mobile : Option String := none
  /-- The number of the telephone. -/
  phone : Option String := none
  /-- The site of the company. -/
  siteUrl : Option String := none
  /-- The number for value added tax. -/
  vat : Option String := none
  deriving DecidableEq

/-- The members that a profile and the command that updates it have in common. -/
def ProfileFields.record : Record ProfileFields :=
  (Record.field (.optional "additionalInfo" .text) <|
    Record.field (.optional "bankAccountCurrency" .text) <|
    Record.field (.optional "bankAccountHolderName" .text) <|
    Record.field (.optional "bankAccountIban" .text) <|
    Record.field (.optional "bankAccountSwift" .text) <|
    Record.field (.optional "company" .text) <|
    Record.field (.optional "companyType" .text) <|
    Record.field (.optional "country" .text) <|
    Record.field (.optional "countryPhoneCode" .text) <|
    Record.field (.optional "email" .text) <|
    Record.field (.optional "firstName" .text) <|
    Record.field (.omitted "image" .text) <|
    Record.field (.omitted "imageMimeType" .text) <|
    Record.field (.optional "lastName" .text) <|
    Record.field (.omitted "logoImage" .text) <|
    Record.field (.omitted "logoImageMimeType" .text) <|
    Record.field (.optional "mobile" .text) <|
    Record.field (.optional "phone" .text) <|
    Record.field (.optional "siteUrl" .text) <|
    Record.field (.optional "vat" .text) <|
    Record.empty).isomorphic
    (fun (additionalInfo, bankAccountCurrency, bankAccountHolderName, bankAccountIban,
        bankAccountSwift, company, companyType, country, countryPhoneCode, email, firstName, image,
        imageMimeType, lastName, logoImage, logoImageMimeType, mobile, phone, siteUrl, vat, ()) =>
      ⟨additionalInfo, bankAccountCurrency, bankAccountHolderName, bankAccountIban,
        bankAccountSwift, company, companyType, country, countryPhoneCode, email, firstName, image,
        imageMimeType, lastName, logoImage, logoImageMimeType, mobile, phone, siteUrl, vat⟩)
    (fun fields =>
      (fields.additionalInfo, fields.bankAccountCurrency, fields.bankAccountHolderName,
        fields.bankAccountIban, fields.bankAccountSwift, fields.company, fields.companyType,
        fields.country, fields.countryPhoneCode, fields.email, fields.firstName, fields.image,
        fields.imageMimeType, fields.lastName, fields.logoImage, fields.logoImageMimeType,
        fields.mobile, fields.phone, fields.siteUrl, fields.vat, ()))

/-- The profile of an account. -/
structure Profile where
  /-- What the update command has as well. -/
  fields : ProfileFields := {}
  /-- The postal addresses. -/
  addresses : List Address := []
  /-- The public address for mail is verified. -/
  emailVerified : Bool := false
  /-- When it was verified. -/
  emailVerifiedAt : Option Timestamp := none
  /-- When the provider was registered. -/
  providerVerifiedAt : Option Timestamp := none
  /-- The average rating of the provider, if there are ratings. -/
  rating : Option Binary64 := none
  /-- The terms are accepted. -/
  termsAccepted : Bool := false
  /-- When they were accepted. -/
  termsAcceptedAt : Option Timestamp := none
  /-- When the profile was created. -/
  createdOn : Option Timestamp := none
  /-- When the profile was changed. -/
  modifiedOn : Option Timestamp := none
  deriving BEq, DecidableEq

/-- The members of a profile. -/
def Profile.record : Record Profile :=
  (ProfileFields.record.embed.append <|
    Record.field (.defaulted "addresses" Address.record.codec.listOf []) <|
    Record.field (.defaulted "emailVerified" .flag false) <|
    Record.field (.optional "emailVerifiedAt" Timestamp.codec) <|
    Record.field (.optional "providerVerifiedAt" Timestamp.codec) <|
    Record.field (.optional "rating" .amount) <|
    Record.field (.defaulted "termsAccepted" .flag false) <|
    Record.field (.optional "termsAcceptedAt" Timestamp.codec) <|
    Record.field (.optional "createdOn" Timestamp.codec) <|
    Record.field (.optional "modifiedOn" Timestamp.codec) <|
    Record.empty).isomorphic
    (fun (fields, addresses, emailVerified, emailVerifiedAt, providerVerifiedAt, rating,
        termsAccepted, termsAcceptedAt, createdOn, modifiedOn, ()) =>
      ⟨fields, addresses, emailVerified, emailVerifiedAt, providerVerifiedAt, rating,
        termsAccepted, termsAcceptedAt, createdOn, modifiedOn⟩)
    (fun profile =>
      (profile.fields, profile.addresses, profile.emailVerified, profile.emailVerifiedAt,
        profile.providerVerifiedAt, profile.rating, profile.termsAccepted, profile.termsAcceptedAt,
        profile.createdOn, profile.modifiedOn, ()))

/-- A command that updates a profile. -/
structure ProfileCommand where
  /-- What the profile has as well. -/
  fields : ProfileFields := {}
  /-- The postal addresses. -/
  addresses : List Address := []
  deriving DecidableEq

/-- The members of a profile command. -/
def ProfileCommand.record : Record ProfileCommand :=
  (ProfileFields.record.embed.append <|
    Record.field (.defaulted "addresses" Address.record.codec.listOf []) <|
    Record.empty).isomorphic
    (fun (fields, addresses, ()) => ⟨fields, addresses⟩)
    (fun command => (command.fields, command.addresses, ()))

/-- A command that registers an account. -/
structure AccountCommand where
  /-- The address for mail, which names the account. -/
  email : String
  /-- The locale of the account. -/
  locale : String
  /-- The password. -/
  password : String
  /-- The password once more. -/
  verifyPassword : String
  /-- The profile. -/
  profile : ProfileCommand
  deriving DecidableEq

namespace AccountCommand

/-- The password was entered twice alike. -/
def passwordsMatch (command : AccountCommand) : Bool := command.password == command.verifyPassword

/-- The members of an account command. -/
def record : Record AccountCommand :=
  (Record.field (.required "email" .text) <|
    Record.field (.required "locale" .text) <|
    Record.field (.required "password" .text) <|
    Record.field (.required "verifyPassword" .text) <|
    Record.field (.required "profile" ProfileCommand.record.codec) <|
    Record.empty).isomorphic
    (fun (email, locale, password, verifyPassword, profile, ()) =>
      ⟨email, locale, password, verifyPassword, profile⟩)
    (fun command =>
      (command.email, command.locale, command.password, command.verifyPassword, command.profile,
        ()))

end AccountCommand

/-- An account. -/
structure Account where
  /-- The address for mail. -/
  email : String
  /-- The locale of the account. -/
  locale : String
  /-- When the address for mail was verified. -/
  activatedAt : Option Timestamp
  /-- How far activation has got. -/
  activationStatus : Option String
  /-- The address for mail is verified. -/
  emailVerified : Bool
  /-- When it was verified. -/
  emailVerifiedAt : Option Timestamp
  /-- The way to sign in that the account was registered with. -/
  idpName : Option AuthProvider
  /-- The name of the user there. -/
  idpUserAlias : Option String
  /-- The image of the user there. -/
  idpUserImage : Option String
  /-- When the account was registered. -/
  registeredAt : Option Timestamp
  /-- The profile. -/
  profile : Profile
  /-- The name of the user. -/
  username : String
  /-- The roles granted to the account. -/
  roles : List Role
  deriving BEq, DecidableEq

namespace Account

/-- The locale of an account that names none. -/
def defaultLocale : String := "en"

/-- The members of an account. -/
def record : Record Account :=
  (Record.field (.required "email" .text) <|
    Record.field (.defaulted "locale" .text defaultLocale) <|
    Record.field (.optional "activatedAt" Timestamp.codec) <|
    Record.field (.optional "activationStatus" .text) <|
    Record.field (.defaulted "emailVerified" .flag false) <|
    Record.field (.optional "emailVerifiedAt" Timestamp.codec) <|
    Record.field (.optional "idpName" AuthProvider.codec) <|
    Record.field (.optional "idpUserAlias" .text) <|
    Record.field (.optional "idpUserImage" .text) <|
    Record.field (.optional "registeredAt" Timestamp.codec) <|
    Record.field (.defaulted "profile" Profile.record.codec {}) <|
    Record.field (.required "username" .text) <|
    Record.field (.defaulted "roles" Role.codec.listOf []) <|
    Record.empty).isomorphic
    (fun (email, locale, activatedAt, activationStatus, emailVerified, emailVerifiedAt, idpName,
        idpUserAlias, idpUserImage, registeredAt, profile, username, roles, ()) =>
      ⟨email, locale, activatedAt, activationStatus, emailVerified, emailVerifiedAt, idpName,
        idpUserAlias, idpUserImage, registeredAt, profile, username, roles⟩)
    (fun account =>
      (account.email, account.locale, account.activatedAt, account.activationStatus,
        account.emailVerified, account.emailVerifiedAt, account.idpName, account.idpUserAlias,
        account.idpUserImage, account.registeredAt, account.profile, account.username,
        account.roles, ()))

/-- The codec of accounts. -/
def codec : Codec Account := record.codec

end Account

/-- The token against forged requests that the server issues when a session begins or ends. -/
structure CsrfToken where
  /-- The name of the header that carries the token. -/
  csrfHeader : Option String := none
  /-- The token. -/
  csrfToken : Option String := none
  deriving DecidableEq

namespace CsrfToken

/-- The members of a token. -/
def record : Record CsrfToken :=
  (Record.field (.optional "csrfHeader" .text) <|
    Record.field (.optional "csrfToken" .text) <|
    Record.empty).isomorphic
    (fun (csrfHeader, csrfToken, ()) => ⟨csrfHeader, csrfToken⟩)
    (fun token => (token.csrfHeader, token.csrfToken, ()))

/-- The codec of tokens. -/
def codec : Codec CsrfToken := record.codec

end CsrfToken
end GeoMarket
