import GeoMarket.Navigation.Navigator

/-!
# The routes of the marketplace

The pages of the marketplace application in the order in which they are tried, with a last route
that sends every other path to the page for errors.
-/
namespace GeoMarket.Navigation.Application

/-- A page that is open to everybody. -/
def page (path name : String) : Route := .node path (some name) {} none []

/-- A page of the dashboard, for users who have signed in. -/
def dashboardPage (path name : String) : Route :=
  .node path (some name) { requiresRole := some .user, layout := some "dashboard" } none []

/-- The pages of the dashboard below a common route without a name. -/
def dashboard : Route :=
  .node "/dashboard" none { requiresRole := some .user, layout := some "dashboard" } none
    [dashboardPage "" "DashboardHome", dashboardPage "assets" "Assets",
      dashboardPage "assets/create" "CreateAsset", dashboardPage "profile" "Profile",
      dashboardPage "favorites" "Favorites", dashboardPage "messages" "Messages",
      dashboardPage "settings" "Settings", dashboardPage "messages/create" "MessageNew",
      dashboardPage "messages/:id" "MessagesThread"]

/-- Every route of the application. -/
def routes : List Route :=
  [page "/" "Home", page "/catalogue/" "Catalogue", page "/catalogue/:id" "CatalogueSingle",
    page "/terms" "Terms", page "/privacy" "Privacy", page "/faq" "Faq", dashboard,
    page "/order-thankyou" "OrderThankYou",
    .node "/signin" (some "Login") { hideForAuth := true } none [],
    page "/error/:error" "Error", page "/about" "About",
    page "/vendor-benefits" "VendorBenefits", page "/user-benefits" "UserBenefits",
    .node "/admin" (some "Admin") { requiresRole := some .admin } none [],
    .node "*" none {} (some "/error/404") []]

/-- The table of the application. -/
def table : RouteTable := RouteTable.ofRoutes routes

/-- Navigation in the application. -/
def navigator : Navigator := { table }

end GeoMarket.Navigation.Application
