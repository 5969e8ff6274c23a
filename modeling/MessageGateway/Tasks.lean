import MessageGateway.HistorySync.Coordinator
import MessageGateway.Outbox.Workers

/-!
# Tasks

## Main definitions

* `Activity.round c a`: what a task does until it stops or stands somewhere else
-/

namespace MessageGateway

/-- One round of a task: it is over, or goes on from somewhere else. -/
def Activity.round (c : GatewayConfig) : Activity → Program (Option Activity)
  | .worker stops phase => workerRound c stops phase
  | .sweeper stops due => sweeperRound c stops due
  | .cycle i h => do
    cycleRound c.historySync i h
    return none

end MessageGateway
