import ChatRelay.Http.Response
import ChatRelay.Hub.EventLoop

/-! # Requests that fail

What a request can fail of, with the status and the short code that stand for it. The answer names
the code, says what is wrong, and carries an identifier of the request for the log.
-/

namespace ChatRelay.Http

/-- Why a request fails. -/
inductive Problem where
  | notFound (what : String)
  | hub (error : HubError)
  | internal (what : String)
  /-- Something that the server needs does not answer. -/
  | unavailable (what : String)
  | io (what : String)
  deriving Repr, DecidableEq

namespace Problem

/-- What is wrong, in words. -/
def message : Problem → String
  | notFound what => "Not found: " ++ what
  | hub error => "Hub error: " ++ error.message
  | internal what => "Internal error: " ++ what
  | unavailable what => "Service unavailable: " ++ what
  | io what => "IO error: " ++ what

def status : Problem → Nat
  | notFound _ => 404
  | hub _ => 503
  | internal _ => 500
  | unavailable _ => 503
  | io _ => 500

def code : Problem → String
  | notFound _ => "NOT_FOUND"
  | hub _ => "HUB_UNAVAILABLE"
  | internal _ => "INTERNAL_ERROR"
  | unavailable _ => "SERVICE_UNAVAILABLE"
  | io _ => "IO_ERROR"

/-- The answer to a request that fails. -/
def response (problem : Problem) (requestId : String) : Response :=
  .json problem.status [
    ("error", .object (Json.Fields.ofList [
      ("code", .string problem.code), ("message", .string problem.message)])),
    ("request_id", .string requestId)]

end Problem
end ChatRelay.Http
