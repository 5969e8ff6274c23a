import MessageGateway.Address
import MessageGateway.Config
import MessageGateway.Session

/-!
# Destinations

Callers name destinations freely: as an address, or as a number with any punctuation. Groups,
broadcast lists and the users of other servers are taken as they are; everything else is reduced
to its digits. A domestic number exists with or without the mobile digit after its area code, and
only the network knows which form is registered.

## Main definitions

* `Destination`, `Destination.normalize`: what a destination says without asking the network
* `withoutMobileDigit`, `withMobileDigit`: the two forms of a domestic number
* `Destination.candidates`: the numbers to ask the network for
* `Destination.choose`: the address to use, given the network's answer
-/

namespace MessageGateway

/-- What a destination says without asking the network. -/
inductive Destination where
  /-- An address. -/
  | direct (a : Address)
  /-- The digits of a domestic number, of which the registered form is unknown. -/
  | domestic (digits : String)
  deriving DecidableEq, Repr

/-- The number of digits before the mobile digit: country code and area code. -/
def mobileDigitPosition : Nat := 4

/-- The number without the digit at the mobile digit's place, if it is long enough to have one. -/
def withoutMobileDigit (digits : String) : Option String :=
  let cs := digits.toList
  if cs.length = 13 ∧ cs.all Text.isDigit then
    some (String.ofList (cs.take mobileDigitPosition ++ cs.drop (mobileDigitPosition + 1)))
  else none

/-- The number with the mobile digit, if it is short enough to lack one. -/
def withMobileDigit (digits : String) (digit : Char) : Option String :=
  let cs := digits.toList
  if cs.length = 12 ∧ cs.all Text.isDigit then
    some (String.ofList (cs.take mobileDigitPosition ++ digit :: cs.drop mobileDigitPosition))
  else none

namespace Destination

/-- The address of a number at the server of users. -/
def userAddress (c : ResolverConfig) (digits : String) : Address :=
  ⟨digits, c.userServer⟩

/-- The part of a destination before the server of users; the whole of it when there is none. -/
def userPart (c : ResolverConfig) (cs : List Char) : List Char :=
  (Text.before? ('@' :: c.userServer.toList) cs).getD cs

/-- What a destination says: it is an address when it mentions the server of groups or of broadcast
lists, or a server other than that of users; else its digits are a number. -/
def normalize (c : ResolverConfig) (raw : String) : Except AddressError Destination :=
  let cs := Text.trimChars raw.toList
  let trimmed := String.ofList cs
  if cs.isEmpty then .error .empty
  else if denotesGroup trimmed then (Address.parse trimmed).map .direct
  else
    let user := userPart c cs
    if user.contains '@' then (Address.parse (String.ofList user)).map .direct
    else
      let digits := user.filter Text.isDigit
      if digits.isEmpty then .error (.malformed trimmed)
      else if c.countryCode.toList.isPrefixOf digits then
        .ok (.domestic (String.ofList digits))
      else .ok (.direct (userAddress c (String.ofList digits)))

/-- The number itself, then its other form if it has one. -/
def candidates (c : ResolverConfig) (digits : String) : List String :=
  digits :: ((withoutMobileDigit digits).orElse fun _ =>
    withMobileDigit digits c.mobileDigit).toList

/-- The address of the first number that exists, else that of the number as it was given. -/
def choose (c : ResolverConfig) (digits : String) (results : List ExistenceResult) : Address :=
  match results.find? fun r => r.found && !r.address.user.isEmpty with
  | some r => r.address
  | none => userAddress c digits

end Destination

end MessageGateway
