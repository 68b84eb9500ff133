import FoodDelivery.Common
import FoodDelivery.Lib.Collection
import FoodDelivery.Lib.Keyed
import Mathlib.Data.Rat.Defs

/-!
# Saved addresses

`savedAddresses` of a user, and the methods of `UsersService` that write it.  Each of them reads
the user, rewrites the list in memory and saves the document, which is validated first.
-/

namespace FoodDelivery

open Store

namespace UsersService

abbrev AddressId := Nat

/-- What `String.prototype.trim` takes off both ends. -/
def isWhitespace (c : Char) : Bool :=
  [0x09, 0x0A, 0x0B, 0x0C, 0x0D, 0x20, 0xA0, 0x1680, 0x2028, 0x2029, 0x202F, 0x205F, 0x3000,
    0xFEFF].contains c.toNat || (0x2000 ≤ c.toNat && c.toNat ≤ 0x200A)

def trim (s : String) : String :=
  String.ofList ((s.toList.dropWhile isWhitespace).reverse.dropWhile isWhitespace).reverse

/-- The `length` of a string, in UTF-16 code units. -/
def length16 (s : String) : Nat :=
  (s.toList.map fun c => if c.toNat < 0x10000 then 1 else 2).sum

/-- `AddressDto`, and what is stored of it. -/
structure Address where
  line1 : String
  line2 : Option String
  city : String
  state : String
  postalCode : Option String
  lat : Option ℚ
  lng : Option ℚ
  deriving DecidableEq

/-- The setters of `AddressSchema`. -/
def Address.cast (address : Address) : Address :=
  { address with
    line1 := trim address.line1
    line2 := address.line2.map trim
    city := trim address.city
    state := trim address.state
    postalCode := address.postalCode.map trim }

/-- A document in memory, with paths that may have been set to `null`. -/
structure SavedAddress where
  id : AddressId
  label : Option String
  address : Option Address
  isDefault : Option Bool
  deriving DecidableEq

structure CreateSavedAddressDto where
  label : String
  address : Address
  isDefault : Given Bool
  deriving DecidableEq

structure UpdateSavedAddressDto where
  label : Given String
  address : Given Address
  isDefault : Given Bool
  deriving DecidableEq

inductive AddressError
  | http (error : HttpError)
  | validation
  deriving DecidableEq

/-- What the validators of `SavedAddressSchema` and `AddressSchema` ask for. -/
def SavedAddress.valid (a : SavedAddress) : Bool :=
  !isBlank a.label && (a.label.all (fun label => length16 label ≤ 50) &&
    a.address.any fun address =>
      address.line1 ≠ "" && (address.city ≠ "" && address.state ≠ ""))

/-- `isDefault` is truthy. -/
def SavedAddress.flagged (a : SavedAddress) : Bool := a.isDefault = some true

section Methods

variable (addresses : List SavedAddress) (addressId : AddressId)

/-- `user.save()`. -/
def save : Except AddressError (List SavedAddress) :=
  if addresses.all SavedAddress.valid then .ok addresses else .error .validation

def clearDefaults : List SavedAddress := addresses.map fun a => { a with isDefault := some false }

/-- The address that is returned is rewritten in place by `Keyed.alter`. -/
def findAddressOrThrow : Except AddressError SavedAddress :=
  match Keyed.find SavedAddress.id addressId addresses with
  | some address => .ok address
  | none => .error (.http (.notFound "Saved address not found"))

/-- `addresses.some((a) => a.isDefault)`. -/
def someDefault : Bool := addresses.any SavedAddress.flagged

/-- The list that `addAddress` saves, and the address it returns.  The new document gets the id
`newId`. -/
def addAddress (newId : AddressId) (dto : CreateSavedAddressDto) :
    Except AddressError (List SavedAddress × SavedAddress) := do
  let makeDefault := dto.isDefault = .value true || addresses.length = 0
  let addresses := if makeDefault then clearDefaults addresses else addresses
  let address := ⟨newId, some (trim dto.label), some dto.address.cast, some makeDefault⟩
  let saved ← save (addresses ++ [address])
  return (saved, address)

def setDefault (isDefault : Option Bool) : List SavedAddress :=
  Keyed.alter SavedAddress.id addressId (fun a => { a with isDefault := isDefault }) addresses

/-- An update does not leave the list without a default. -/
def keepDefault : List SavedAddress :=
  if !someDefault addresses && addresses.length > 0 then setDefault addresses addressId (some true)
  else addresses

/-- The assignments of `updateAddress` to `label` and `address`. -/
def UpdateSavedAddressDto.assign (dto : UpdateSavedAddressDto) (a : SavedAddress) : SavedAddress :=
  { a with
    label := if dto.label.isDefined then dto.label.toOption.map trim else a.label
    address := if dto.address.isDefined then dto.address.toOption.map Address.cast else a.address }

/-- The list that `updateAddress` saves, and the address it returns. -/
def updateAddress (dto : UpdateSavedAddressDto) :
    Except AddressError (List SavedAddress × SavedAddress) := do
  let _ ← findAddressOrThrow addresses addressId
  let addresses := Keyed.alter SavedAddress.id addressId dto.assign addresses
  let addresses := if dto.isDefault = .value true then clearDefaults addresses else addresses
  let addresses :=
    if dto.isDefault.isDefined then setDefault addresses addressId dto.isDefault.toOption
    else addresses
  let saved ← save (keepDefault addresses addressId)
  let address ← findAddressOrThrow saved addressId
  return (saved, address)

/-- The list that `removeAddress` saves. -/
def removeAddress : Except AddressError (List SavedAddress) := do
  let address ← findAddressOrThrow addresses addressId
  let addresses := Keyed.others SavedAddress.id addressId addresses
  save (if address.flagged && addresses.length > 0 then
      addresses.modify 0 fun a => { a with isDefault := some true }
    else addresses)

end Methods

/-- A call to one of the methods, for the user with this id. -/
inductive AddressCall
  | addAddress (dto : CreateSavedAddressDto)
  | updateAddress (addressId : AddressId) (dto : UpdateSavedAddressDto)
  | removeAddress (addressId : AddressId)
  deriving DecidableEq

/-- What is stored of the users, and the next id that a saved address gets. -/
structure AddressBooks where
  users : Collection (List SavedAddress)
  nextId : AddressId

def AddressCall.run (call : AddressCall) (newId : AddressId) (addresses : List SavedAddress) :
    Except AddressError (List SavedAddress) :=
  match call with
  | .addAddress dto => do
    let result ← UsersService.addAddress addresses newId dto
    return result.1
  | .updateAddress addressId dto => do
    let result ← UsersService.updateAddress addresses addressId dto
    return result.1
  | .removeAddress addressId => UsersService.removeAddress addresses addressId

/-- A user registers, or a call runs to its end; `reply` is how the write of `save` came back. -/
inductive AddressEvent
  | registered
  | called (id : UserId) (call : AddressCall) (reply : DbReply)
  deriving DecidableEq

namespace AddressBooks

def empty : AddressBooks := ⟨.empty, 0⟩

def findByIdOrThrow (s : AddressBooks) (id : UserId) : Except AddressError (List SavedAddress) :=
  match s.users.get id with
  | some addresses => .ok addresses
  | none => .error (.http (.notFound "User not found"))

/-- What a call saves. -/
def saves (s : AddressBooks) (id : UserId) (call : AddressCall) :
    Except AddressError (List SavedAddress) := do
  let addresses ← s.findByIdOrThrow id
  call.run s.nextId addresses

def step (s : AddressBooks) : AddressEvent → AddressBooks
  | .registered => { s with users := s.users.create [] }
  | .called id call reply =>
    match s.saves id call with
    | .ok addresses =>
      if reply.wrote then ⟨s.users.modify id fun _ => addresses, s.nextId + 1⟩ else s
    | .error _ => s

/-- The calls of any users, one after the other. -/
def after (events : List AddressEvent) : AddressBooks := events.foldl step empty

end AddressBooks

end UsersService

end FoodDelivery
