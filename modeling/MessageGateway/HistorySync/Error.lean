import MessageGateway.Store.Error

/-!
# Errors of the history sync

## Main definitions

* `SyncError`: why an operation of the history sync failed
-/

namespace MessageGateway

/-- Why an operation of the history sync failed. -/
inductive SyncError where
  /-- A store failed. -/
  | store (cause : StoreError)
  /-- A payload was not accepted. -/
  | processor (reason : String)
  deriving DecidableEq, Repr

/-- The wording of the error. -/
def SyncError.message : SyncError → String
  | .store cause => cause.message
  | .processor reason => "payload processing failed: " ++ reason

end MessageGateway
