import Mathlib.Data.List.Basic

/-!
# Ids, providers, request fields and HTTP errors

What several services share.  An id names one document and is never reused; the
model uses natural numbers, and for the collections it embeds (orders, payouts,
clawbacks) the position in the collection.
-/

namespace FoodDelivery

abbrev UserId := Nat
abbrev VendorId := Nat
abbrev OrderId := Nat
abbrev PayoutId := Nat
abbrev ClawbackId := Nat

/-- Milliseconds, as `Date` counts them. -/
abbrev Time := Nat

/-- `PAYMENT_PROVIDERS`. -/
inductive PaymentProvider
  | stripe
  | paystack
  | flutterwave
  deriving DecidableEq, Repr

def PaymentProvider.name : PaymentProvider → String
  | .stripe => "stripe"
  | .paystack => "paystack"
  | .flutterwave => "flutterwave"

/-- JavaScript's `!value` on a string that may be null. -/
def isBlank : Option String → Bool
  | none => true
  | some s => s == ""

/-- A field of a request body.  One that is `@IsOptional()` may be left out or `null`. -/
inductive Given (α : Type)
  | absent
  | null
  | value (a : α)
  deriving DecidableEq, Repr

namespace Given

variable {α : Type}

/-- `!== undefined`. -/
def isDefined : Given α → Bool
  | absent => false
  | _ => true

/-- `value ?? null`. -/
def toOption : Given α → Option α
  | value a => some a
  | _ => none

/-- What `Object.assign` leaves of a path. -/
def onto : Given α → Option α → Option α
  | absent, old => old
  | null, _ => none
  | value a, _ => some a

/-- What a document is created with. -/
def orDefault (given : Given α) (default : Option α) : Option α := given.onto default

/-- The path is assigned what it holds, or nothing. -/
def leaves [DecidableEq α] (given : Given α) (old : Option α) : Bool := given.onto old = old

end Given

/-- The exceptions a service method throws to its caller; a `TypeError` is one of the runtime's. -/
inductive HttpError
  | notFound (message : String)
  | badRequest (message : String)
  | forbidden (message : String)
  | typeError (message : String)
  deriving DecidableEq, Repr

/-- What a chain of checks returns. -/
theorem bind_eq_ok {ε α β : Type} {x : Except ε α} {f : α → Except ε β} {b : β} :
    (x >>= f) = .ok b ↔ ∃ a, x = .ok a ∧ f a = .ok b := by
  cases x with
  | error e => exact iff_of_false (by rintro ⟨⟩) (by rintro ⟨a, ⟨⟩, -⟩)
  | ok a => exact ⟨fun h => ⟨a, rfl, h⟩, by rintro ⟨a', ⟨⟩, h⟩; exact h⟩

/-- How an awaited database call that writes one document came back: normally,
or with an error thrown before or after the write reached the collection. -/
inductive DbReply
  | ok
  | threw (written : Bool) (message : String)
  deriving DecidableEq, Repr

/-- Whether the write is in the collection afterwards. -/
def DbReply.wrote : DbReply → Bool
  | .ok => true
  | .threw written _ => written

@[simp] theorem DbReply.wrote_ok : DbReply.ok.wrote = true := rfl

@[simp] theorem DbReply.wrote_threw (b : Bool) (m : String) : (DbReply.threw b m).wrote = b := rfl

end FoodDelivery
