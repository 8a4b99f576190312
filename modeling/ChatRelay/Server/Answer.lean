import ChatRelay.Http.Handshake
import ChatRelay.Http.Problem
import ChatRelay.Http.Route
import ChatRelay.Metrics.Exposition
import ChatRelay.Server.State
import ChatRelay.Text.Quoted

/-! # Answering requests

What the server answers to a request. Requests for a WebSocket connection may be answered by opening
one; everything else has a response: the rooms and their members, the health of the server, and its
metrics. Every request to a known path is counted after its answer is made, and requests of other
sites for permission are answered before anything is looked up.
-/

namespace ChatRelay

open Http Json

/-- The version of the server. -/
def serverVersion : String := "0.1.0"

/-- What an answer takes from outside: a new identifier for the request, for how many seconds the
    server has been up, and how long the answer took. -/
structure Occasion where
  requestId : String
  uptime : Nat
  elapsed : Binary64

/-- What comes of a request. -/
inductive Answer where
  | respond (response : Response)
  /-- The connection becomes a WebSocket connection, and its session starts in a room. -/
  | upgrade (room : String)

namespace Answer

/-- A natural number. -/
def natural (n : Nat) : Value := .number (.integer n)

/-- An object. -/
def fields (all : List (String × Value)) : Value := .object (Fields.ofList all)

/-- A room with its number of members. -/
def ofRoom (name : String) (members : Nat) : List (String × Value) :=
  [("name", .string name), ("members", natural members)]

/-- A room as it is recorded in the presence store. -/
def ofPresence (room : RoomPresence) : Value :=
  fields [("room", .string room.room), ("members", .number (.integer room.members))]

/-- The rooms of this instance, and the active rooms if presence is kept. -/
def ofRooms (snapshot : Snapshot) (active : Option (List RoomPresence)) : List (String × Value) :=
  [("rooms", .array (snapshot.rooms.map fun (name, members) => fields (ofRoom name members))),
    ("clients", natural snapshot.clients)] ++
    (active.map fun rooms => ("presence", .array (rooms.map ofPresence))).toList

def ofStats (stats : HubStats) : Value :=
  fields [("broadcasts", natural stats.broadcasts),
    ("remote_broadcasts", natural stats.remoteBroadcasts),
    ("deliveries", natural stats.deliveries), ("evictions", natural stats.evictions),
    ("published", natural stats.published), ("unpublished", natural stats.unpublished),
    ("rooms", natural stats.rooms), ("clients", natural stats.clients)]

def ofBridge (bridge : BridgeStatus) : Value :=
  fields (("connected", .bool bridge.connected) ::
    bridge.counters.map fun (name, n) => (name, natural n))

end Answer

namespace Server

open Answer

/-- How well the server does. A bridge that is down leaves the service on this instance whole. -/
def condition (server : Server) : String :=
  if !server.node.loop.running then "unhealthy"
  else if (server.bridge.map BridgeStatus.connected).getD true then "healthy" else "degraded"

/-- The state of the server for its operators. -/
def healthFields (server : Server) (occasion : Occasion) : List (String × Value) :=
  [("status", .string server.condition),
    ("hub", .string (if server.node.loop.running then "ok" else "error")),
    ("uptime_seconds", natural occasion.uptime),
    ("version", .string serverVersion),
    ("instance_id", .string server.node.id.text),
    ("stats", ofStats server.node.loop.hub.stats)] ++
    (server.bridge.map fun bridge => ("bridge", ofBridge bridge)).toList

/-- The rooms with members, or why they cannot be told. -/
def answerRooms (server : Server) (occasion : Occasion) : Response :=
  match server.snapshot with
  | .error error => (Problem.hub error).response occasion.requestId
  | .ok snapshot => .json 200 (ofRooms snapshot server.activeRooms?)

/-- One room, by its name as it stands in the path. -/
def answerRoom (server : Server) (occasion : Occasion) (name : Bytes) : Response :=
  match Utf8.toString? (percentDecode name) with
  | none => .plain 400 "Invalid URL: Invalid UTF-8 in `room`"
  | some room =>
    match server.snapshot with
    | .error error => (Problem.hub error).response occasion.requestId
    | .ok snapshot =>
      match snapshot.members? room with
      | some members => .json 200 (ofRoom room members)
      | none =>
        (Problem.notFound ("room " ++ Text.quoted room ++ " has no members here")).response
          occasion.requestId

/-- The metrics, with the counters of the bridge brought up to date. -/
def answerMetrics (server : Server) (occasion : Occasion) : Response × Server :=
  let server := match server.bridge with
    | some bridge => server.withMetrics (·.observeBridge bridge)
    | none => server
  match server.node.metrics with
  | none => ((Problem.notFound "metrics are disabled").response occasion.requestId, server)
  | some metrics =>
    ({ status := 200, headers := [("content-type", "text/plain; version=0.0.4")]
       body := .lines metrics.lines }, server)

/-- The answer to a request for a route, made with a method that the route knows. -/
def answerRoute (server : Server) (occasion : Occasion) (request : Request) (route : Route) :
    Answer × Server :=
  match route with
  | .socket =>
    match Handshake.accept request with
    | .error refusal => (.respond refusal.response, server)
    | .ok room => (.upgrade (server.settings.resolveRoom room), server)
  | .rooms => (.respond (server.answerRooms occasion), server)
  | .room name => (.respond (server.answerRoom occasion name), server)
  | .health => (.respond (.json 200 (server.healthFields occasion)), server)
  | .live => (.respond (.empty 200), server)
  | .ready => (.respond (.empty (if server.node.loop.running then 200 else 503)), server)
  | .metrics =>
    let (response, server) := server.answerMetrics occasion
    (.respond response, server)

/-- The methods that every route knows. -/
def methods : List String := ["GET", "HEAD"]

/-- The header that names the methods of a route. -/
def allowHeader : String × String := ("allow", ",".intercalate methods)

/-- The status that an answer is counted under. -/
def statusOf : Answer → Nat
  | .respond response => response.status
  | .upgrade _ => 101

/-- The answer to a request for a route, counted. -/
def answerCounted (server : Server) (occasion : Occasion) (request : Request) (route : Route) :
    Answer × Server :=
  let (answer, server) :=
    if methods.contains request.method then server.answerRoute occasion request route
    else (.respond { status := 405, headers := [allowHeader] }, server)
  (answer, server.withMetrics fun metrics =>
    metrics.noteRequest request.method route.template (statusOf answer) occasion.elapsed)

/-- What answers depend on, as far as caches of other sites' requests are concerned. -/
def varyHeader : String × String :=
  ("vary", "origin, access-control-request-method, access-control-request-headers")

/-- The answer to a request for permission: everything is allowed to everyone. -/
def permission (route : Option Route) : Response :=
  { status := 200
    headers := [("access-control-allow-origin", "*"), ("access-control-allow-methods", "*"),
      ("access-control-allow-headers", "*"), varyHeader] ++
      (route.map fun _ => allowHeader).toList }

/-- A response with the headers that let other sites use it, and without a body if the request
    only asks for the headers. -/
def finish (request : Request) (response : Response) : Response :=
  { response with
    headers := response.headers ++
      [("access-control-allow-origin", "*"), ("access-control-expose-headers", "*"), varyHeader]
    body := if request.method = "HEAD" then .empty else response.body }

/-- The answer to a request. -/
def answer (server : Server) (occasion : Occasion) (request : Request) : Answer × Server :=
  let route := Route.ofPath? request.target.path
  if request.method = "OPTIONS" then (.respond (permission route), server)
  else
    match route with
    | none => (.respond (finish request (.empty 404)), server)
    | some route =>
      match server.answerCounted occasion request route with
      | (.respond response, server) => (.respond (finish request response), server)
      | (.upgrade room, server) => (.upgrade room, server)

end Server
end ChatRelay
