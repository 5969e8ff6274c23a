/-!
# Errors of stores

## Main definitions

* `StoreError`: why a store did not do what it was asked
-/

namespace MessageGateway

/-- Why a store did not do what it was asked. -/
inductive StoreError where
  /-- There is no such record. -/
  | notFound (what : String)
  /-- The write contradicts what is stored. -/
  | conflict (what : String)
  /-- The store itself failed. -/
  | backend (text : String)
  deriving DecidableEq, Repr

/-- The wording of the error. -/
def StoreError.message : StoreError → String
  | .notFound what => "record not found: " ++ what
  | .conflict what => "conflicting write: " ++ what
  | .backend text => "store backend failure: " ++ text

end MessageGateway
