import GeoMarket.Main
import GeoMarket.Proofs.Navigation.Chain
import GeoMarket.Proofs.Navigation.Language
import GeoMarket.Proofs.Client.Call
import GeoMarket.Proofs.Client.Run
import GeoMarket.Proofs.Navigation.Admission
import GeoMarket.Proofs.Navigation.Arrival
import GeoMarket.Proofs.Client.Access
import GeoMarket.Proofs.Client.Tokens
import GeoMarket.Proofs.Client.SignIn
import GeoMarket.Proofs.Client.Discipline
import GeoMarket.Proofs.Client.Cart
import GeoMarket.Proofs.Client.SignOut
import GeoMarket.Proofs.Client.Secrecy
import GeoMarket.Proofs.Record.Members
import GeoMarket.Proofs.Record.Arrangement
import GeoMarket.Proofs.Model.Arrangement
import GeoMarket.Proofs.Model.Records
import GeoMarket.Proofs.Client.Commands
import GeoMarket.Proofs.Console.Forecast
import GeoMarket.Proofs.Change.Prevailing
import GeoMarket.Proofs.Session.Fields
import GeoMarket.Proofs.Client.Address
import GeoMarket.Proofs.Settings.Precedence
import GeoMarket.Proofs.Console.Reporting
import GeoMarket.Proofs.Navigation.CatchAll
import GeoMarket.Proofs.Client.Loading
import GeoMarket.Proofs.Record.Contents
import GeoMarket.Proofs.Model.Pricing
import GeoMarket.Proofs.Client.Search
import GeoMarket.Proofs.Navigation.Agreement
import GeoMarket.Proofs.Record.Replacement
import GeoMarket.Proofs.Model.Roles
import GeoMarket.Proofs.Console.Adding
import GeoMarket.Proofs.Navigation.Nesting
import GeoMarket.Proofs.Navigation.Naming
import GeoMarket.Proofs.Navigation.Parameters
import GeoMarket.Proofs.Client.FreeText
import GeoMarket.Proofs.Http.Repetition
import GeoMarket.Proofs.Model.Paging
import GeoMarket.Proofs.Model.Cheapest
import GeoMarket.Proofs.Model.FileTypes
import GeoMarket.Proofs.Model.Quotes
import GeoMarket.Proofs.Http.HeaderMap
