import ChatRelay.Bytes
import ChatRelay.Text.Utf8

/-! # Routes

The paths that the server answers. A path is compared byte for byte and before percent encoding is
undone; the only part that may vary is the name of a room, which is not empty and has no slash.
-/

namespace ChatRelay.Http

/-- What a path leads to. -/
inductive Route where
  /-- Open a WebSocket connection. -/
  | socket
  /-- The rooms of this instance. -/
  | rooms
  /-- One room of this instance, by its name as it stands in the path. -/
  | room (name : Bytes)
  | health
  | live
  | ready
  | metrics
  deriving Repr, DecidableEq

namespace Route

/-- The path of a route, with the name of the room left open. -/
def template : Route → String
  | socket => "/ws"
  | rooms => "/api/v1/rooms"
  | room _ => "/api/v1/rooms/:room"
  | health => "/health"
  | live => "/health/live"
  | ready => "/health/ready"
  | metrics => "/metrics"

/-- The routes that have one path each. -/
def fixed : List Route := [socket, rooms, health, live, ready, metrics]

/-- What the path of a room begins with. -/
def roomStart : Bytes := Utf8.ofString (rooms.template ++ "/")

/-- The route of a path. -/
def ofPath? (path : Bytes) : Option Route :=
  match fixed.find? fun route => Utf8.ofString route.template == path with
  | some route => some route
  | none =>
    let name := path.drop roomStart.length
    if roomStart.isPrefixOf path && !name.isEmpty && !name.contains 0x2F then some (room name)
    else none

end Route
end ChatRelay.Http
