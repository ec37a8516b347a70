import TestQueue.Identifier
import TestQueue.Net.SocketAddress
import TestQueue.Numeric.Decimal
import TestQueue.Server.Policy

namespace TestQueue

inductive ConfigError where
  | unreadable
  | notKdl
  | missingPeriod
  | missingWorkerId
  | listenAddress
  | defaultInterval (fault : IntervalFault)
  | workerInterval (worker : String) (fault : IntervalFault)
  | toleranceFactor (factor : Float)
  | depletionPolicy (name : String)
  | terminationPolicy (name : String)
  | number (field : String) (n : Int)
  | duplicateWorker (worker : WorkerId)
  deriving DecidableEq

namespace ConfigError

def missing (field : String) : String := "missing required field: " ++ field

def invalid (field reason : String) : String := "invalid value for " ++ field ++ ": " ++ reason

def message? : ConfigError → Option String
  | unreadable => none
  | notKdl => none
  | missingPeriod => some (missing "termination period")
  | missingWorkerId => some (missing "worker id")
  | listenAddress => some (invalid "server listen" Net.SocketAddress.refusal)
  | defaultInterval fault => some (invalid "aliveness report-alive-interval" fault.message)
  | workerInterval w fault =>
    some (invalid ("worker '" ++ w ++ "' report-alive-interval") fault.message)
  | toleranceFactor x =>
    some (invalid "aliveness tolerance-factor"
      ("must be a finite number of at least 1.0, got " ++ Binary64.positional x))
  | depletionPolicy name => some (invalid "queue worker-policy" ("unknown policy: " ++ name))
  | terminationPolicy name =>
    some (invalid "termination policy" ("unknown termination policy: " ++ name))
  | number field n =>
    some (invalid field ("expected a non-negative integer, got " ++ toString n))
  | duplicateWorker w => some ("duplicate definition: worker '" ++ w.text ++ "'")

end ConfigError

end TestQueue
