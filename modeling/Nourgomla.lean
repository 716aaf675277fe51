import Nourgomla.Library.Method
import Nourgomla.Library.Machine
import Nourgomla.Library.Cents
import Nourgomla.Library.Dart
import Nourgomla.Library.Dictionary
import Nourgomla.Library.Integers
import Nourgomla.Library.Uri
import Nourgomla.Services.DynamicLinks
import Nourgomla.Library.LoggedStack
import Nourgomla.Services.UserApiCalls
import Nourgomla.Properties.LoadingDialog
import Nourgomla.Properties.DeepLinks
import Nourgomla.Library.FirstMatch
import Nourgomla.Models.Product
import Nourgomla.Widgets.FavouriteButton
import Nourgomla.Widgets.SurveyScreen
import Nourgomla.Properties.SurveyAnswers
import Nourgomla.Widgets.PhoneAuthScreen
import Nourgomla.Properties.ResendCountdown
import Nourgomla.Widgets.VendorsMap
import Nourgomla.Properties.VendorMarkers
import Nourgomla.Properties.FavouriteFlag
import Nourgomla.Models.Cart
import Nourgomla.Services.CartDb
import Nourgomla.Services.CartServices
import Nourgomla.Controllers.CartController
import Nourgomla.Controllers.CartApp
import Nourgomla.Services.OrderServices
import Nourgomla.Controllers.OrdersController
import Nourgomla.Controllers.CartRounding
import Nourgomla.Controllers.CartSpec
import Nourgomla.Controllers.AppSpec
import Nourgomla.System
import Nourgomla.SystemSpec
import Nourgomla.Properties.Totals
import Nourgomla.Properties.Persistence
import Nourgomla.Properties.Freshness
import Nourgomla.Properties.Sync
import Nourgomla.Properties.Uniqueness
import Nourgomla.Properties.VendorShipping
import Nourgomla.Properties.CouponDiscount
import Nourgomla.Properties.CouponLimits
import Nourgomla.Properties.Bill
import Nourgomla.Properties.Orders
import Nourgomla.Properties.FailedRefresh
import Nourgomla.Properties.RefreshTwice
import Nourgomla.Properties.TappedLine
import Nourgomla.Controllers.PagedLists
import Nourgomla.Properties.Paging
import Nourgomla.Library.Flag
import Nourgomla.Controllers.FilterController
import Nourgomla.Properties.Filter
import Nourgomla.Controllers.AddressesController
import Nourgomla.Properties.Addresses
import Nourgomla.Services.UserDb
import Nourgomla.Controllers.UserController
import Nourgomla.Properties.SessionCoherence
import Nourgomla.Properties.StoredUser
import Nourgomla.Controllers.SplashController
import Nourgomla.Controllers.SettingsController
import Nourgomla.Properties.SettingsFallback
import Nourgomla.Properties.StartupGate
import Nourgomla.Widgets.SpinWidget
import Nourgomla.Properties.QuantityBound
import Nourgomla.Properties.EmptyCart
import Nourgomla.Properties.Points
import Nourgomla.Properties.BillSign
import Nourgomla.Widgets.Prices
import Nourgomla.Properties.UnitPrice
import Nourgomla.Properties.SpinRange
import Nourgomla.Controllers.PageLoads
import Nourgomla.Properties.PageFailure
import Nourgomla.Controllers.ShippingAreas
import Nourgomla.Library.Pages
import Nourgomla.Controllers.SearchController
import Nourgomla.Controllers.VendorController
import Nourgomla.Properties.SearchPages
import Nourgomla.Services.ProductsService
import Nourgomla.Widgets.ProductsPage
import Nourgomla.Properties.ProductFilter
import Nourgomla.Services.HomeServices
import Nourgomla.Widgets.HomeBuilder
import Nourgomla.Properties.HomeLayout
import Nourgomla.Properties.Identity
import Nourgomla.Library.Requests
import Nourgomla.Controllers.LanguageController
import Nourgomla.Controllers.CategoriesController
import Nourgomla.Properties.LatestChoice
import Nourgomla.Library.Interleaving
import Nourgomla.Library.Documents
import Nourgomla.Library.Doubles
import Nourgomla.Services.ChatServices
import Nourgomla.Properties.ChatCopies
import Nourgomla.Library.KeyedList
import Nourgomla.Properties.CartRefinement
import Nourgomla.Properties.OrderedBasket
import Nourgomla.Library.JsonText
import Nourgomla.Library.RegExp
import Nourgomla.Helpers.Validators
import Nourgomla.Properties.EmailAddresses
import Nourgomla.Widgets.AreaBuilder
import Nourgomla.Properties.DrawnAreas
import Nourgomla.Widgets.AddressInsert
import Nourgomla.Properties.ConfirmedAddresses
import Nourgomla.Library.Debounce
import Nourgomla.Widgets.PlacePicker
import Nourgomla.Properties.PlaceSearches
import Nourgomla.Properties.ServedAreas
import Nourgomla.Widgets.AccountScreens
import Nourgomla.Widgets.AccountSpec
import Nourgomla.Properties.AccountRequests
import Nourgomla.Properties.AccountCredential
import Nourgomla.Widgets.ComplaintsScreen
import Nourgomla.Properties.SpacedComplaints
