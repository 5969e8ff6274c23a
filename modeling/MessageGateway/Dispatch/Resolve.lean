import MessageGateway.Destination
import MessageGateway.Program

/-!
# Resolving destinations

## Main definitions

* `resolve c i raw`: the address that a destination stands for, asked on the session of `i`
-/

namespace MessageGateway

open Program

/-- The address that a destination stands for. The network is asked only about domestic numbers,
and when it does not answer the number is taken as it was given. -/
def resolve (c : ResolverConfig) (i : InstanceId) (raw : String) :
    Program (Except AddressError Address) :=
  match Destination.normalize c raw with
  | .error e => pure (.error e)
  | .ok (.direct a) => pure (.ok a)
  | .ok (.domestic digits) => do
    match ← probe i (Destination.candidates c digits) with
    | .ok results => return .ok (Destination.choose c digits results)
    | .error _ => return .ok (Destination.userAddress c digits)

end MessageGateway
