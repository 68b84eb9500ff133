import FoodDelivery.Lib.Collection
import FoodDelivery.Orders.Lifecycle

/-!
# Users

`users/schemas/user.schema.ts`, and what `UsersService` makes of one document.  Emails are in lower
case and trimmed, as the schema stores them and `findByEmail` looks them up.
-/

namespace FoodDelivery

open Store

inductive UserStatus
  | active
  | suspended
  deriving DecidableEq, Repr

/-- `phone` has no default: a user without one has no such field, and the sparse unique index leaves
that user out.  A `null` is in the index. -/
structure User where
  email : String
  passwordHash : String
  name : String
  role : UserRole
  isEmailVerified : Bool
  avatarUrl : Option String
  phone : Given String
  isPhoneVerified : Bool
  status : UserStatus
  deriving DecidableEq

/-- What the authentication paths throw, beside the exceptions of `HttpError`. -/
inductive AuthError
  | http (error : HttpError)
  | unauthorized (message : String)
  | conflict (message : String)
  | validation
  | duplicateKey
  deriving DecidableEq, Repr

structure UpdateProfileDto where
  name : Given String
  avatarUrl : Given String
  phone : Given String
  deriving DecidableEq

namespace User

def assertActive (user : User) : Except AuthError Unit :=
  if user.status = .suspended then
    .error (.unauthorized "This account has been suspended. Contact support for help.")
  else .ok ()

/-- What `updateProfile` assigns; `none` when the required `name` is left empty. -/
def assignProfile (user : User) (dto : UpdateProfileDto) : Option User :=
  ((dto.name.onto (some user.name)).filter (· ≠ "")).map fun name =>
    { user with
      name := name
      avatarUrl := dto.avatarUrl.onto user.avatarUrl
      phone := if dto.phone.isDefined then dto.phone else user.phone }

end User

section Users

variable (users : Collection User)

def findByEmail (email : String) : Option (UserId × User) :=
  (users.find fun _ u => u.email = email).head?

def findByPhone (phone : String) : Option (UserId × User) :=
  (users.find fun _ u => u.phone = .value phone).head?

/-- The unique index on `phone` holds this value for another user. -/
def phoneTaken (phone : Given String) (id : UserId) : Bool :=
  phone.isDefined && (users.find fun i u => i ≠ id && u.phone = phone) ≠ []

/-- `userModel.create`. -/
def createUser (user : User) : Except AuthError (Collection User) :=
  if user.name = "" then .error .validation
  else if (findByEmail users user.email).isSome || phoneTaken users user.phone users.nextId then
    .error .duplicateKey
  else .ok (users.create user)

/-- The validator of `name` and the unique index on `phone` accept what the body assigns. -/
def profileAccepted (id : UserId) (user : User) (dto : UpdateProfileDto) : Bool :=
  (dto.name.onto (some user.name)).any (· ≠ "") && !phoneTaken users dto.phone id

def updateProfile (id : UserId) (dto : UpdateProfileDto) : Except AuthError (Collection User) :=
  match users.get id with
  | none => .error (.http (.notFound "User not found"))
  | some user =>
    match user.assignProfile dto with
    | none => .error .validation
    | some user' =>
      if phoneTaken users dto.phone id then
        .error (.conflict "This phone number is already in use on another account")
      else .ok (users.modify id fun _ => user')

end Users

end FoodDelivery
