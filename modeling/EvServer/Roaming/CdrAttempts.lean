import EvServer.Lib.Runs
import EvServer.Roaming.Cdr

/-!
# Attempts to send a CDR

The attempts to send the CDR of a transaction come one after the other here, each with its
own answers of the platform and of the other components.
-/

namespace EvServer

/-- The platforms that a CDR is sent to. -/
inductive RoamingPlatform
  | ocpi
  | oicp
  deriving DecidableEq, Repr

/-- Who sends a CDR. -/
inductive CdrSender
  | statusNotification
  | manualPush
  | task
  deriving DecidableEq, Repr

/-- An attempt to send the CDR of the transaction. -/
structure CdrAttempt where
  sender : CdrSender
  context : RoamingContext

/-- What the sender does with the transaction that it has read. -/
def CdrSender.send (context : RoamingContext) :
    CdrSender → RoamingTransaction → CdrHandler Unit
  | statusNotification => OCPPService.completeRoamingTransaction context
  | manualPush => TransactionService.pushTransactionCdr context
  | task => OCPIPushCdrsTask.processTransaction context

namespace CdrStore

/-- The transaction, and nothing posted. -/
def start (transaction : RoamingTransaction) : CdrStore := { transaction := transaction }

/-- The store after an attempt. -/
def attempt (s : CdrStore) (attempt : CdrAttempt) : CdrStore :=
  (attempt.sender.send attempt.context s.transaction s).2

def Step (s : CdrStore) (attempt : CdrAttempt) (s' : CdrStore) : Prop := s.attempt attempt = s'

end CdrStore

end EvServer
