import TestQueue.Http.Message

/-!
Requests and responses as single lines: `POST /api/v1/jobs {...}` and `200 {...}`.
-/

namespace TestQueue.Http

def Request.ofLine (line : String) : Request :=
  let s := line.toList
  let method := s.takeWhile (· ≠ ' ')
  let s := (s.dropWhile (· ≠ ' ')).drop 1
  let target := s.takeWhile (· ≠ ' ')
  let body := (s.dropWhile (· ≠ ' ')).drop 1
  ⟨.ofName (String.ofList method), String.ofList target, some "application/json",
    String.ofList body⟩

def Response.toLine (r : Response) : String := toString r.status ++ " " ++ r.text

end TestQueue.Http
