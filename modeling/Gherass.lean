import Gherass.AcceptRejectExclusivity
import Gherass.BookingAtomicity
import Gherass.Calendar
import Gherass.CapacityEdits
import Gherass.CartAdditions
import Gherass.CartCleanup
import Gherass.CartCompleteness
import Gherass.CartDeletion
import Gherass.CartItemLedger
import Gherass.CartItemPrograms
import Gherass.CartItems
import Gherass.CartRemovals
import Gherass.CartRequests
import Gherass.CountdownOutcome
import Gherass.CustomerOrders
import Gherass.DeductedLines
import Gherass.DeliveryAddressLoad
import Gherass.DeliveryReread
import Gherass.DiscountLinks
import Gherass.DriverExclusivity
import Gherass.DriverLists
import Gherass.DriverOffers
import Gherass.DriverSession
import Gherass.EmailRules
import Gherass.EventEdits
import Gherass.EventLoopEnds
import Gherass.EventLoopOutcomes
import Gherass.EventLoopScripts
import Gherass.EventLoopSimulation
import Gherass.EventMaps
import Gherass.ExpiredDiscounts
import Gherass.ExpiredEvents
import Gherass.ExpirySweeps
import Gherass.FarmRatings
import Gherass.FarmReviews
import Gherass.FarmTabs
import Gherass.FarmTaps
import Gherass.FarmVisibility
import Gherass.FarmerSales
import Gherass.FieldMaps
import Gherass.HiddenStock
import Gherass.HomeAddress
import Gherass.HomeFarms
import Gherass.HomeRefresh
import Gherass.LineBounds
import Gherass.ListPrefixes
import Gherass.ListReloads
import Gherass.ListSums
import Gherass.MonthlySales
import Gherass.OneBooking
import Gherass.OpenedOrder
import Gherass.OrderCounts
import Gherass.OrderFarmers
import Gherass.OrderLifecycle
import Gherass.OrderTimeline
import Gherass.OrderTotals
import Gherass.PlacementAtomicity
import Gherass.ProductEdits
import Gherass.ProductPage
import Gherass.ProductSearch
import Gherass.ProfileControllers
import Gherass.ProfileData
import Gherass.ProfileEdits
import Gherass.ProfileRules
import Gherass.PromotionTarget
import Gherass.PromotionWrites
import Gherass.RatingShares
import Gherass.RefusedLogin
import Gherass.RegistrationData
import Gherass.RegistrationPages
import Gherass.RejectedSales
import Gherass.SalesCharts
import Gherass.SalesFigures
import Gherass.SessionLink
import Gherass.SoldQuantities
import Gherass.SoundAccounts
import Gherass.StatusOrder
import Gherass.StatusTypes
import Gherass.StockConservation
import Gherass.StockDecrement
import Gherass.StockViews
import Gherass.StoredLists
import Gherass.TextNumbers
import Gherass.TextOrder
import Gherass.TextPatterns
import Gherass.TicketBounds
import Gherass.TicketConservation
import Gherass.VehicleInfo
import Gherass.VehicleStore
