import TestQueue.Http.Route
import TestQueue.Proofs.UrlReference

namespace TestQueue

open Net (Url)

namespace Http

namespace Route

lemma path_cons (s : List Char) : path ('/' :: s) = '/' :: s := by
  have hspan : ('/' :: s).span (fun c => decide (c ≠ '/')) = ([], '/' :: s) := by
    simp [List.span_eq_takeWhile_dropWhile]
  unfold path
  rw [hspan]
  split
  · next hlast => split <;> simp_all
  · rfl

lemma ofTarget?_cons (s : List Char) : ofTarget? (String.ofList ('/' :: s)) =
    ofSegments? ((Text.splitAt (· = '/') (s.takeWhile Url.inBody)).map String.ofList) := by
  have htake : ('/' :: s).takeWhile (fun c => c ≠ '?' && c ≠ '#') =
      '/' :: s.takeWhile Url.inBody := List.takeWhile_cons_of_pos rfl
  rw [ofTarget?, String.toList_ofList, htake, path_cons]
  rfl

end Route

lemma Request.operation_eq_ok {r : Request} {op : Operation} :
    r.operation = .ok op ↔
      (Route.ofTarget? r.target).bind (Operation.of? · r.method) = some (.ok op) := by
  unfold operation
  cases Route.ofTarget? r.target with
  | none => simp
  | some route =>
    cases hfound : Operation.of? route r.method with
    | none => simp [hfound]
    | some found => simp [hfound]

namespace Route

def segments : Route → List String
  | health => ["health"]
  | version => ["api", "v1", "version"]
  | workers => ["api", "v1", "workers"]
  | workersByStatus => ["api", "v1", "workers", "by-status"]
  | worker id => ["api", "v1", "workers", id]
  | workerRegister id => ["api", "v1", "workers", id, "register"]
  | workerAlive id => ["api", "v1", "workers", id, "alive"]
  | workerBlock id => ["api", "v1", "workers", id, "block"]
  | workerUnblock id => ["api", "v1", "workers", id, "unblock"]
  | bucketsFetch => ["api", "v1", "buckets", "fetch"]
  | bucketsResults => ["api", "v1", "buckets", "results"]
  | bucketsProcessing => ["api", "v1", "buckets", "processing"]
  | jobs => ["api", "v1", "jobs"]
  | job id => ["api", "v1", "jobs", id]
  | jobResults id => ["api", "v1", "jobs", id, "results"]

/-- Whether the route can be read at all: `by-status` is not the identifier of a worker here. -/
def isReadable : Route → Bool
  | worker id => !id.isEmpty && id ≠ "by-status"
  | job id => !id.isEmpty
  | _ => true

lemma ofSegments?_eq_some_iff {texts : List String} {route : Route} :
    ofSegments? texts = some route ↔ texts = route.segments ∧ route.isReadable = true := by
  constructor
  · intro h
    unfold ofSegments? at h
    split at h
    · obtain rfl := Option.some.inj h
      exact ⟨rfl, rfl⟩
    · unfold ofApiSegments? at h
      split at h
      case h_4 id hid =>
        split at h
        · cases h
        · next hne =>
          obtain rfl := Option.some.inj h
          exact ⟨rfl, by simp_all [isReadable]⟩
      case h_13 id =>
        split at h
        · cases h
        · next hne =>
          obtain rfl := Option.some.inj h
          exact ⟨rfl, by simpa [isReadable] using hne⟩
      all_goals cases h
      all_goals exact ⟨rfl, rfl⟩
    · cases h
  · rintro ⟨rfl, h⟩
    cases route <;> simp_all [segments, isReadable, ofSegments?, ofApiSegments?]

end Route

namespace Operation

variable {id : String} {op : Operation}

lemma onWorker_eq_ok {operation : WorkerId → Operation} : onWorker operation id = .ok op ↔
    ∃ w : WorkerId, Net.Percent.decodeText? id = some w.text ∧ operation w = op := by
  unfold onWorker
  cases Net.Percent.decodeText? id with
  | none => simp
  | some text =>
    simp only [Except.ok.injEq, Option.some.injEq]
    constructor
    · exact fun h => ⟨⟨text⟩, rfl, h⟩
    · rintro ⟨w, rfl, h⟩
      exact h

lemma onJob_eq_ok {operation : JobId → Operation} : onJob operation id = .ok op ↔
    ∃ j : JobId, Net.Percent.decodeText? id = some j.text ∧ operation j = op := by
  unfold onJob
  cases Net.Percent.decodeText? id with
  | none => simp
  | some text =>
    simp only [Except.ok.injEq, Option.some.injEq]
    constructor
    · exact fun h => ⟨⟨text⟩, rfl, h⟩
    · rintro ⟨j, rfl, h⟩
      exact h

end Operation

end Http

end TestQueue
