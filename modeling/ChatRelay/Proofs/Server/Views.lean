import ChatRelay.Proofs.Hub.Listing
import ChatRelay.Proofs.Http.Percent
import ChatRelay.Proofs.Json.Fields
import ChatRelay.Server.Answer

/-! # What can be seen of a hub by request

The answers about rooms agree with the hub: with the rooms and members of its registry, with the
counters that it keeps in a ledger, and with each other. A store for presence that cannot be read
takes away what it would have told, and a hub that is gone takes away everything.
-/

namespace ChatRelay

open Http Json

/-- A request for what is at a path, whatever else it says. -/
def Http.Request.get (request : Request) (path : Bytes) : Request :=
  { request with method := "GET", target := { request.target with path } }

namespace Answer

/-- A field of the object that is answered. -/
def field? (answer : Answer) (name : String) : Option Value :=
  match answer with
  | .respond { body := .json (.object fields), .. } => Fields.get? name fields
  | _ => none

/-- The answer without a field of its object. -/
def without (name : String) : Answer → Answer
  | .respond { status, headers, body := .json (.object fields) } =>
      .respond { status, headers, body := .json (.object (Fields.erase name fields)) }
  | answer => answer

/-- The answer tells how many members a room has. -/
structure Counts (answer : Answer) (room : String) (members : Nat) : Prop where
  status : Server.statusOf answer = 200
  name : answer.field? "name" = some (.string room)
  members : answer.field? "members" = some (natural members)

/-- The answer lists rooms with their members and has the number of all of them. -/
structure ListsRooms (answer : Answer) (listed : List (String × Nat)) : Prop where
  status : Server.statusOf answer = 200
  rooms : answer.field? "rooms" = some (.array (listed.map fun (room, members) =>
    fields [("name", .string room), ("members", natural members)]))
  clients : answer.field? "clients" = some (natural (listed.map Prod.snd).sum)

/-- The answer lists rooms with their members as they are recorded. -/
def ListsPresence (answer : Answer) (listed : List (String × Nat)) : Prop :=
  answer.field? "presence" = some (.array (listed.map fun (room, members) =>
    fields [("room", .string room), ("members", natural members)]))

theorem natural_injective {m n : Nat} (same : natural m = natural n) : m = n := by
  simpa [natural] using same

end Answer

namespace Server

open Answer

variable (server : Server) (occasion : Occasion) (request : Request)

/-- What is answered to a request for all rooms. -/
def seeRooms : Answer := (server.answer occasion (request.get Route.roomsPath)).1

/-- What is answered to a request for the room that a segment of the path stands for. -/
def seeRoom (segment : Bytes) : Answer :=
  (server.answer occasion (request.get (Route.roomPath segment))).1

variable {server : Server} {occasion : Occasion} {request : Request}

theorem answer_get {path : Bytes} {route : Route} (found : Route.ofPath? path = some route)
    {response : Response}
    (responds : (server.answerRoute occasion (request.get path) route).1 = .respond response) :
    (server.answer occasion (request.get path)).1 =
      .respond { response with headers := (finish (request.get path) response).headers } := by
  have get : (request.get path).method = "GET" := rfl
  have target : (request.get path).target.path = path := rfl
  have known : methods.contains (request.get path).method = true := by rw [get]; decide
  unfold answer answerCounted
  rw [target, found, if_neg (by rw [get]; decide)]
  simp only [known, if_true, responds]
  simp [finish, get]

theorem seeRooms_eq : server.seeRooms occasion request =
    .respond { server.answerRooms occasion with
      headers := (finish (request.get Route.roomsPath) (server.answerRooms occasion)).headers } :=
  answer_get Route.ofPath?_roomsPath rfl

theorem seeRoom_eq {segment : Bytes} (filled : segment ≠ []) (single : 0x2F ∉ segment) :
    server.seeRoom occasion request segment =
      .respond { server.answerRoom occasion segment with
        headers := (finish (request.get (Route.roomPath segment))
          (server.answerRoom occasion segment)).headers } :=
  answer_get (Route.ofPath?_roomPath filled single) rfl

/-- What is answered about a room that is named. -/
theorem answerRoom_names {segment : Bytes} {room : String} (names : Names segment room) :
    server.answerRoom occasion segment =
      match server.snapshot with
      | .error error => (Problem.hub error).response occasion.requestId
      | .ok snapshot =>
        match snapshot.members? room with
        | some members => .json 200 (ofRoom room members)
        | none =>
          (Problem.notFound ("room " ++ Text.quoted room ++ " has no members here")).response
            occasion.requestId := by
  have text : Utf8.toString? (percentDecode segment) = some room := by
    rw [names.decoded, Utf8.toString?_ofString]
  unfold answerRoom
  cases server.snapshot with
  | error error => simp only [text]
  | ok snapshot => cases found : snapshot.members? room <;> simp only [text, found]

/-- A hub that is gone cannot be asked about rooms. -/
theorem answers_ended (ended : server.node.loop.running = false) :
    statusOf (server.seeRooms occasion request) = 503 ∧
      ∀ room segment, room ≠ "" → Names segment room →
        statusOf (server.seeRoom occasion request segment) = 503 := by
  have gone : server.snapshot = .error .closed := by
    rw [snapshot, Node.snapshot, ended]
    rfl
  refine ⟨?_, fun room segment named names => ?_⟩
  · rw [seeRooms_eq, answerRooms, gone]
    rfl
  · rw [seeRoom_eq (names.ne_nil named) names.single, answerRoom_names names, gone]
    rfl

/-- A store for presence that cannot be read takes its list away from the answer, and nothing
    else. -/
theorem answers_faulty (fault : PresenceError) :
    let broken := { server with presenceFault := some fault }
    let whole := { server with presenceFault := none }
    broken.seeRooms occasion request = (whole.seeRooms occasion request).without "presence" ∧
      ∀ room segment, room ≠ "" → Names segment room →
        broken.seeRoom occasion request segment = whole.seeRoom occasion request segment := by
  intro broken whole
  refine ⟨?_, fun room segment named names => ?_⟩
  · have same : broken.snapshot = whole.snapshot := rfl
    simp only [seeRooms_eq, answerRooms, same]
    cases whole.snapshot with
    | error error => rfl
    | ok snapshot => cases active : whole.activeRooms? <;> rfl
  · rw [seeRoom_eq (names.ne_nil named) names.single, seeRoom_eq (names.ne_nil named) names.single]
    rfl

/-- What is answered while the hub has something to list. -/
theorem answers_running {registry : Registry} {listed : List (String × Nat)}
    (lists : registry.Lists listed)
    (snapshot : server.snapshot = .ok ⟨listed, (listed.map Prod.snd).sum⟩) :
    (server.seeRooms occasion request).ListsRooms listed ∧
      ∀ room segment, room ≠ "" → Names segment room →
        (∀ members, (server.seeRoom occasion request segment).Counts room members ↔
          (room, members) ∈ listed) ∧
        (statusOf (server.seeRoom occasion request segment) = 404 ↔
          ∀ members, (room, members) ∉ listed) := by
  refine ⟨?_, fun room segment named names => ?_⟩
  · rw [seeRooms_eq, answerRooms, snapshot]
    cases server.activeRooms? <;> exact ⟨rfl, rfl, rfl⟩
  · simp only [seeRoom_eq (names.ne_nil named) names.single, answerRoom_names names, snapshot,
      Snapshot.members?]
    cases found : listed.lookup room with
    | none =>
        have absent (members : Nat) : (room, members) ∉ listed := fun member => by
          cases found.symm.trans (lists.lookup_eq_some_iff.mpr member)
        refine ⟨fun members => ⟨fun counts => ?_, fun member => absurd member (absent members)⟩,
          fun _ => absent, fun _ => rfl⟩
        cases counts.status
    | some there =>
        have member := lists.lookup_eq_some_iff.mp found
        refine ⟨fun members => ⟨fun counts => ?_, fun other => ?_⟩, nofun,
          fun absent => absurd member (absent there)⟩
        · have same := natural_injective (Option.some.inj counts.members)
          exact same ▸ member
        · cases found.symm.trans (lists.lookup_eq_some_iff.mpr other)
          exact ⟨rfl, rfl, rfl⟩

theorem listsPresence_of_active {snapshot : Snapshot} (told : server.snapshot = .ok snapshot)
    {listed : List (String × Nat)}
    (active : server.activeRooms? = some (listed.map fun (room, members) => ⟨room, members⟩)) :
    (server.seeRooms occasion request).ListsPresence listed := by
  have shown : listed.map (fun (room, members) =>
      fields [("room", .string room), ("members", natural members)]) =
        (listed.map fun (room, members) => (⟨room, members⟩ : RoomPresence)).map ofPresence := by
    rw [List.map_map]
    rfl
  rw [ListsPresence, seeRooms_eq, answerRooms, told, active, shown]
  rfl

/-- What is answered about rooms agrees with the hub, whatever its clients and others have done. -/
theorem views_agree (node : Node) (capacity : Nat) (moves : List VenueMove) (server : Server)
    (occasion : Occasion) (request : Request) :
    let venue := (play Venue.step (.start node capacity) moves).2
    let loop := venue.node.loop
    let server := { server with node := venue.node, queues := venue.queues }
    (∀ room, Names (percentEncode (Utf8.ofString room)) room) ∧
    (loop.running = true → loop.pending = [] → ∃ listed, loop.hub.registry.Lists listed ∧
      (∀ ticket, (venue.node.submit (.snapshot ticket) venue.queues).1 =
        .ok [.answered ticket ⟨listed, (listed.map Prod.snd).sum⟩]) ∧
      (server.seeRooms occasion request).ListsRooms listed ∧
      (∀ room segment, room ≠ "" → Names segment room →
        (∀ members, (server.seeRoom occasion request segment).Counts room members ↔
          (room, members) ∈ listed) ∧
        (statusOf (server.seeRoom occasion request segment) = 404 ↔
          ∀ members, (room, members) ∉ listed)) ∧
      (node.presence = some {} → server.presenceFault = none →
        (server.seeRooms occasion request).ListsPresence listed)) ∧
    (∀ fault,
      let broken := { server with presenceFault := some fault }
      let whole := { server with presenceFault := none }
      broken.seeRooms occasion request = (whole.seeRooms occasion request).without "presence" ∧
        ∀ room segment, room ≠ "" → Names segment room →
          broken.seeRoom occasion request segment = whole.seeRoom occasion request segment) ∧
    (loop.running = false → statusOf (server.seeRooms occasion request) = 503 ∧
      ∀ room segment, room ≠ "" → Names segment room →
        statusOf (server.seeRoom occasion request segment) = 503) := by
  intro venue loop server
  refine ⟨percentEncode_names, fun running quiet => ?_, fun fault => answers_faulty fault,
    fun ended => answers_ended ended⟩
  obtain ⟨roster, sound⟩ := Venue.sound_play node capacity moves
  have lists := loop.hub.registry.lists_snapshot
  have clients : loop.hub.registry.snapshot.clients =
      (loop.hub.registry.snapshot.rooms.map Prod.snd).sum :=
    (sound.mirrors.snapshot_exact sound.unshared).1.symm
  have whole : loop.hub.registry.snapshot =
      ⟨loop.hub.registry.snapshot.rooms, (loop.hub.registry.snapshot.rooms.map Prod.snd).sum⟩ := by
    rw [← clients]
  have snapshot : server.snapshot = .ok loop.hub.registry.snapshot := by
    rw [Server.snapshot, Node.snapshot, if_pos running]
  have told := whole ▸ snapshot
  obtain ⟨rooms, each⟩ := @answers_running server occasion request _ _ lists told
  refine ⟨loop.hub.registry.snapshot.rooms, lists, fun ticket => ?_, rooms, each,
    fun fresh readable => ?_⟩
  · rw [← whole]
    exact Node.submit_snapshot running quiet (Venue.capacity_play node capacity moves) ticket _
  · have alone := Venue.Alone.play fresh capacity moves
    refine listsPresence_of_active snapshot ?_
    rw [Server.activeRooms?, readable]
    exact alone.active_eq running

/-- Two clients are in a room with a slash in its name; a third one has left again. Then the hub is
    stopped. -/
theorem views_agree_encoded :
    let node : Node := { Node.start .zero {} with presence := some {} }
    let world (moves : List WorldMove) := moves.map VenueMove.world
    let moves := world ([(1, "é/x"), (2, "é/x"), (3, "b")].flatMap fun (id, room) =>
        [.connect ⟨id, id⟩ 4, .submit (.join room ⟨id, id⟩), .advance none]) ++
      world [.submit (.leave "b" 3), .advance none]
    let venue := (play Venue.step (.start node 4) moves).2
    let ended := (play Venue.step (.start node 4) (moves ++ world [.stop])).2
    let server : Server := { node := venue.node, queues := venue.queues }
    let occasion : Occasion := ⟨"", 0, .zero false⟩
    let request : Request := ⟨"", ⟨[], none⟩, [], false⟩
    let segment (room : String) := percentEncode (Utf8.ofString room)
    (server.seeRoom occasion request (segment "é/x")).Counts "é/x" 2 ∧
      statusOf (server.seeRoom occasion request (segment "b")) = 404 ∧
      (∃ listed, venue.node.loop.hub.registry.Lists listed ∧
        (server.seeRooms occasion request).ListsRooms listed ∧
        (server.seeRooms occasion request).ListsPresence listed) ∧
      statusOf ({ server with node := ended.node, queues := ended.queues }.seeRooms
        occasion request) = 503 := by
  intro node world moves venue ended server occasion request segment
  have agrees := views_agree node 4 moves server occasion request
  -- Under its name, the run is only evaluated where a fact about it is decided.
  have ran : (play Venue.step (.start node 4) moves).2 = venue := rfl
  rw [ran] at agrees
  obtain ⟨names, agree, -, -⟩ := agrees
  obtain ⟨listed, lists, -, rooms, each, presence⟩ := agree (by decide +kernel) (by decide +kernel)
  have there : "é/x" ∈ venue.node.loop.hub.registry.rooms ∧
      2 = venue.node.loop.hub.registry.members "é/x" := by decide +kernel
  have gone : "b" ∉ venue.node.loop.hub.registry.rooms := by decide +kernel
  obtain ⟨counts, -⟩ := each "é/x" _ (by decide) (names "é/x")
  obtain ⟨-, missing⟩ := each "b" _ (by decide) (names "b")
  have two := (counts 2).mpr ((lists.mem _ _).mpr there)
  have none := missing.mpr fun members member => gone ((lists.mem _ _).mp member).1
  obtain ⟨-, -, -, closed⟩ := views_agree node 4 (moves ++ world [.stop]) server occasion request
  exact ⟨two, none, ⟨listed, lists, rooms, presence rfl rfl⟩, (closed (by decide +kernel)).1⟩

end Server
end ChatRelay
