import TestQueue.Http.Message
import TestQueue.Identifier
import TestQueue.Net.Percent
import TestQueue.Text.Split

namespace TestQueue.Http

inductive Refusal where
  | notFound
  | methodNotAllowed
  | badIdentifier
  | notAnnouncedAsJson
  | tooLarge
  | notJson
  | unexpectedBody
  deriving DecidableEq, Repr

namespace Refusal

def status : Refusal → Nat
  | notFound => 404
  | methodNotAllowed => 405
  | badIdentifier => 400
  | notAnnouncedAsJson => 415
  | tooLarge => 413
  | notJson => 400
  | unexpectedBody => 422

end Refusal

inductive Route where
  | health
  | version
  | workers
  | workersByStatus
  | worker (id : String)
  | workerRegister (id : String)
  | workerAlive (id : String)
  | workerBlock (id : String)
  | workerUnblock (id : String)
  | bucketsFetch
  | bucketsResults
  | bucketsProcessing
  | jobs
  | job (id : String)
  | jobResults (id : String)
  deriving DecidableEq, Repr

namespace Route

/-- The last segment is never empty, but an identifier before it may be. -/
def ofApiSegments? : List String → Option Route
  | ["version"] => some version
  | ["workers"] => some workers
  | ["workers", "by-status"] => some workersByStatus
  | ["workers", id] => if id.isEmpty then none else some (worker id)
  | ["workers", id, "register"] => some (workerRegister id)
  | ["workers", id, "alive"] => some (workerAlive id)
  | ["workers", id, "block"] => some (workerBlock id)
  | ["workers", id, "unblock"] => some (workerUnblock id)
  | ["buckets", "fetch"] => some bucketsFetch
  | ["buckets", "results"] => some bucketsResults
  | ["buckets", "processing"] => some bucketsProcessing
  | ["jobs"] => some jobs
  | ["jobs", id] => if id.isEmpty then none else some (job id)
  | ["jobs", id, "results"] => some (jobResults id)
  | _ => none

def ofSegments? : List String → Option Route
  | ["health"] => some health
  | "api" :: "v1" :: rest => ofApiSegments? rest
  | _ => none

def path (target : List Char) : List Char :=
  match target.span (· ≠ '/') with
  | (scheme, '/' :: '/' :: rest) =>
    if scheme.getLast? = some ':' then rest.dropWhile (· ≠ '/') else target
  | _ => target

def ofTarget? (target : String) : Option Route :=
  match path (target.toList.takeWhile fun c => c ≠ '?' && c ≠ '#') with
  | '/' :: path => ofSegments? ((Text.splitAt (· = '/') path).map String.ofList)
  | _ => none

end Route

inductive Operation where
  | health
  | version
  | register (worker : WorkerId)
  | reportAlive (worker : WorkerId)
  | setBlocked (worker : WorkerId) (blocked : Bool)
  | listWorkers
  | workersByStatus
  | worker (worker : WorkerId)
  | fetch
  | submit
  | processing
  | schedule
  | jobState (job : JobId)
  | jobResults (job : JobId)
  | deleteJob (job : JobId)
  deriving DecidableEq, Repr

namespace Operation

def onWorker (operation : WorkerId → Operation) (id : String) : Except Refusal Operation :=
  match Net.Percent.decodeText? id with
  | some text => .ok (operation ⟨text⟩)
  | none => .error .badIdentifier

def onJob (operation : JobId → Operation) (id : String) : Except Refusal Operation :=
  match Net.Percent.decodeText? id with
  | some text => .ok (operation ⟨text⟩)
  | none => .error .badIdentifier

def reading : Route → Option (Except Refusal Operation)
  | .health => some (.ok health)
  | .version => some (.ok version)
  | .workers => some (.ok listWorkers)
  | .workersByStatus => some (.ok workersByStatus)
  | .worker id => some (onWorker worker id)
  | .bucketsProcessing => some (.ok processing)
  | .job id => some (onJob jobState id)
  | .jobResults id => some (onJob jobResults id)
  | _ => none

def posting : Route → Option (Except Refusal Operation)
  | .workerRegister id => some (onWorker register id)
  | .workerAlive id => some (onWorker reportAlive id)
  | .workerBlock id => some (onWorker (setBlocked · true) id)
  | .workerUnblock id => some (onWorker (setBlocked · false) id)
  | .bucketsFetch => some (.ok fetch)
  | .bucketsResults => some (.ok submit)
  | .jobs => some (.ok schedule)
  | _ => none

def deleting : Route → Option (Except Refusal Operation)
  | .job id => some (onJob deleteJob id)
  | _ => none

def of? (route : Route) : Method → Option (Except Refusal Operation)
  | .get | .head => reading route
  | .post => posting route
  | .delete => deleting route
  | .other _ => none

end Operation

namespace Request

def operation (r : Request) : Except Refusal Operation :=
  match Route.ofTarget? r.target with
  | none => .error .notFound
  | some route => (Operation.of? route r.method).getD (.error .methodNotAllowed)

end Request

end TestQueue.Http
