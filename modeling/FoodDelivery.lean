import FoodDelivery.Payouts.AtMostOnce
import FoodDelivery.Refunds.ProviderCalls
import FoodDelivery.Clawbacks.Grounded
import FoodDelivery.Clawbacks.Recovered
import FoodDelivery.Clawbacks.Ledger
import FoodDelivery.Payouts.Faults
import FoodDelivery.Payouts.Stranded
import FoodDelivery.Payouts.PaidAgain
import FoodDelivery.Orders.History
import FoodDelivery.Orders.Deliveries
import FoodDelivery.Riders.Verified
import FoodDelivery.Riders.Dispatch
import FoodDelivery.Campaigns.Sponsorship
import FoodDelivery.Campaigns.OneLive
import FoodDelivery.Campaigns.Operations
import FoodDelivery.Campaigns.Exactness
import FoodDelivery.Campaigns.Advertised
import FoodDelivery.Campaigns.Recorded
import FoodDelivery.Orders.Coherence
import FoodDelivery.Refunds.Visible
import FoodDelivery.Refunds.OutOfBand
import FoodDelivery.Refunds.Partial
import FoodDelivery.Payments.Attempts
import FoodDelivery.Payments.Authenticity
import FoodDelivery.Payments.Amounts
import FoodDelivery.Payments.Finality
import FoodDelivery.Payments.Reversal
import FoodDelivery.Payments.MoneyCalls
import FoodDelivery.PromoCodes.Authority
import FoodDelivery.Orders.Pricing
import FoodDelivery.PromoCodes.Redeemable
import FoodDelivery.PromoCodes.Overshoot
import FoodDelivery.Discovery.Pages
import FoodDelivery.Discovery.Slugs
import FoodDelivery.Realtime.Rooms
import FoodDelivery.Riders.Nearest
import FoodDelivery.Businesses.Approval
import FoodDelivery.Auth.Phones
import FoodDelivery.Auth.Revocation
import FoodDelivery.Auth.LiveCookie
import FoodDelivery.Auth.ResetLinks
import FoodDelivery.Auth.Demotion
import FoodDelivery.Auth.Rotation
import FoodDelivery.Auth.PhoneCodes
import FoodDelivery.Orders.Snapshots
import FoodDelivery.Carts.Moves
import FoodDelivery.Carts.OneSeller
import FoodDelivery.Carts.Lines
import FoodDelivery.Carts.Modifiers
import FoodDelivery.Carts.Stock
import FoodDelivery.Lib.Forest
import FoodDelivery.Stores.Products
import FoodDelivery.Stores.Spelling
import FoodDelivery.Stores.Leaves
import FoodDelivery.Reviews.Ratings
import FoodDelivery.Reviews.Eligibility
import FoodDelivery.Payouts.Netting
import FoodDelivery.Orders.PricingLaw
import FoodDelivery.Refunds.Atomic
import FoodDelivery.Payouts.Reconciled
import FoodDelivery.Payouts.Settling
import FoodDelivery.Payouts.BatchMoves
import FoodDelivery.Payouts.ZeroAmounts
import FoodDelivery.Orders.SalesReport
import FoodDelivery.Orders.SalesReportCsv
import FoodDelivery.Orders.Books
import FoodDelivery.Orders.Reconciliation
import FoodDelivery.Orders.ReportRows
import FoodDelivery.Users.OneDefault
import FoodDelivery.Payouts.OneEach
import FoodDelivery.Businesses.OpenStatus
import FoodDelivery.Lib.Regex
import FoodDelivery.Menu.Discounts
import FoodDelivery.Payouts.Onboarded
