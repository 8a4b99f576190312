import ChatRelay.Proofs.Server.Operations
import ChatRelay.Proofs.Server.Translation
import ChatRelay.Server.Answer
import ChatRelay.Server.Launch

/-! # Rooms have names

A session only moves to rooms with names. So it is in a room without a name only if it starts there,
which the query of its request cannot bring about and the environment cannot either: the file of the
settings has to give connections that name no room the empty name.
-/

namespace ChatRelay

namespace Settings

/-! ## The room of connections that name none -/

/-- The room that the text of a settings file gives to connections that name none, if it gives them
    one. -/
def statedRoom? (text : List Char) : Option String := do
  let root ← Toml.document? text
  let entries ← section? "server" ["host", "port", "default_room"] root
  match entries.lookup "default_room" with
  | some (.string room) => some room
  | _ => none

/-- The environment does not name the room of connections that name none, and the text of the
    settings file gives them the empty name. -/
def LeavesUnnamed (env : Environment) (text : List Char) : Prop :=
  (env.text? "ROOMCAST_DEFAULT_ROOM").getD "" = "" ∧ statedRoom? text = some ""

variable {env : Environment} {text : List Char} {settings : Settings}

theorem server?_ofToml? {root : Toml.Entries} (given : ofToml? root = some settings) :
    server? root = some settings.server := by
  unfold ofToml? at given
  simp only [Option.bind_eq_bind, Option.bind_eq_some_iff] at given
  obtain ⟨server, read, hub, -, redis, -, logging, -, is⟩ := given
  cases is
  exact read

theorem defaultRoom_server? {root : Toml.Entries} {server : ServerSettings}
    (given : server? root = some server) :
    ∃ entries, section? "server" ["host", "port", "default_room"] root = some entries ∧
      text? "default_room" "General" entries = some server.defaultRoom := by
  unfold server? at given
  simp only [Option.bind_eq_bind, Option.bind_eq_some_iff] at given
  obtain ⟨entries, found, host, -, port, -, room, read, is⟩ := given
  cases is
  exact ⟨entries, found, read⟩

theorem defaultRoom_ofText? (given : ofText? text = some settings) :
    settings.server.defaultRoom = (statedRoom? text).getD "General" := by
  obtain ⟨root, read, given⟩ := Option.bind_eq_some_iff.mp given
  obtain ⟨entries, found, room⟩ := defaultRoom_server? (server?_ofToml? given)
  unfold text? at room
  simp only [statedRoom?, read, found, Option.bind_eq_bind, Option.bind_some]
  split at room
  · next absent =>
      rw [absent]
      exact (Option.some.inj room).symm
  · next stated =>
      rw [stated]
      exact (Option.some.inj room).symm
  · cases room

theorem defaultRoom_override (env : Environment) (settings : Settings) :
    (override env settings).server.defaultRoom = "" ↔
      (env.text? "ROOMCAST_DEFAULT_ROOM").getD "" = "" ∧ settings.server.defaultRoom = "" := by
  change Option.getD (Option.filter _ _) _ = "" ↔ _
  cases env.text? "ROOMCAST_DEFAULT_ROOM" with
  | none => simp
  | some room => by_cases unnamed : room = "" <;> simp [Option.filter, unnamed]

theorem defaultRoom_loadWith {files : Files} {path : String}
    (loaded : loadWith env files path = .ok settings) :
    ∃ text, files.text path = .ok text ∧
      (settings.server.defaultRoom = "" ↔ LeavesUnnamed env text) := by
  unfold loadWith load at loaded
  cases found : files.text path with
  | error fault =>
      rw [found] at loaded
      cases loaded
  | ok text =>
      cases given : ofText? text with
      | none =>
          simp only [found, given] at loaded
          cases loaded
      | some base =>
          simp only [found, given] at loaded
          cases loaded
          refine ⟨text, rfl, ?_⟩
          rw [defaultRoom_override, defaultRoom_ofText? given, LeavesUnnamed]
          cases statedRoom? text <;> simp

end Settings

theorem ServerSettings.resolveRoom_eq_empty_iff {server : ServerSettings}
    {requested : Option String} :
    server.resolveRoom requested = "" ↔ requested.getD "" = "" ∧ server.defaultRoom = "" := by
  cases requested with
  | none => simp [resolveRoom]
  | some room => by_cases unnamed : room = "" <;> simp [resolveRoom, unnamed]

/-! ## The way of a session -/

/-- The room that a request names. -/
def Command.room? : Command → Option String
  | .join room _ | .leave room _ | .switch _ room => some room
  | .broadcast envelope => some envelope.room
  | .disconnect _ | .snapshot _ => none

/-- Requests of a session that starts in `room`. It speaks to the room that it is in, or it moves to
    a room with a name, where it then is. -/
inductive Walk (client : ClientId) : (room : String) → List Command → Prop
  | done {room : String} : Walk client room []
  | speak {room : String} {payload : Bytes} {commands : List Command}
      (later : Walk client room commands) :
      Walk client room (.broadcast ⟨room, payload, .here⟩ :: commands)
  | move {room target : String} {commands : List Command} (named : target ≠ "")
      (later : Walk client target commands) : Walk client room (.switch client target :: commands)

namespace Walk

variable {client : ClientId} {room : String} {commands : List Command}

theorem switch_named (walk : Walk client room commands) {mover : ClientId} {target : String}
    (member : .switch mover target ∈ commands) : target ≠ "" := by
  induction walk with
  | done => cases member
  | speak later ih =>
      rcases List.mem_cons.mp member with same | member
      · cases same
      · exact ih member
  | move named later ih =>
      rcases List.mem_cons.mp member with same | member
      · cases same
        exact named
      · exact ih member

theorem named (walk : Walk client room commands) (start : room ≠ "") :
    ∀ command ∈ commands, ∀ place ∈ command.room?, place ≠ "" := by
  induction walk with
  | done => simp
  | speak later ih => exact List.forall_mem_cons.mpr ⟨by simpa [Command.room?], ih start⟩
  | move named later ih => exact List.forall_mem_cons.mpr ⟨by simpa [Command.room?], ih named⟩

end Walk

theorem Session.target_ne_empty {room target : String} {now : Timestamp} {data : Bytes}
    (moves : react room now data = .move target) : target ≠ "" := by
  unfold react at moves
  split at moves
  · cases moves
  · split at moves
    · cases moves
    · cases moves
    · split at moves
      · next named =>
          cases moves
          simpa using (Option.filter_eq_some_iff.mp named).2
      · cases moves
    · cases moves

theorem walk_deeds (connection : Connection) (frames : List (Timestamp × Bytes)) :
    Walk connection.client connection.room
      ((connection.deeds frames).flatMap Deed.requests) := by
  induction frames generalizing connection with
  | nil => exact .done
  | cons frame frames ih =>
      obtain ⟨now, data⟩ := frame
      rw [Connection.deeds_cons]
      cases reacts : Session.react connection.room now data with
      | close => exact .done
      | ignore => exact ih connection
      | move target =>
          exact .move (Session.target_ne_empty reacts) (ih { connection with room := target })
      | relay data => exact .speak (ih connection)
      | say message => exact .speak (ih connection)

/-- All that a session asks the hub for: it joins the room that is resolved for it, and then makes
    the requests that its frames lead to. -/
def ServerSettings.session (server : ServerSettings) (requested : Option String) (handle : Handle)
    (frames : List (Timestamp × Bytes)) : List Command :=
  let room := server.resolveRoom requested
  .join room handle ::
    ((Connection.mk handle.client handle.queue room).deeds frames).flatMap Deed.requests

/-! ## The connections of a server -/

/-- What a server is met with. -/
inductive Contact where
  /-- Somebody makes a request, which may open a connection. -/
  | request (occasion : Occasion) (request : Http.Request)
  /-- A client sends something. -/
  | incoming (client : ClientId) (now : Timestamp) (incoming : Incoming)
  /-- Its hub is stopped. -/
  | stop
  /-- What waits for other instances is lost. -/
  | outage

namespace Server

/-- The server after a contact. -/
def meet (server : Server) : Contact → Server
  | .request occasion request =>
      match server.answer occasion request with
      | (.upgrade room, server) => (server.connect room).2.2
      | (.respond _, server) => server
  | .incoming client now incoming => (server.receive client now incoming).2
  | .stop => server.stopHub.2
  | .outage => server.loseOutbox

/-- The server after all that it is met with. -/
def serve (server : Server) (contacts : List Contact) : Server := contacts.foldl meet server

/-- No connection of the server is in a room without a name or can come to start in one. -/
structure Named (server : Server) : Prop where
  default : server.settings.defaultRoom ≠ ""
  rooms : ∀ connection ∈ server.connections, connection.room ≠ ""

/-- A server with the same settings that may have lost connections. -/
structure Loses (server after : Server) : Prop where
  settings : after.settings = server.settings
  connections : after.connections ⊆ server.connections

theorem Named.loses {server after : Server} (named : server.Named) (loses : server.Loses after) :
    after.Named :=
  ⟨loses.settings ▸ named.default, fun connection member =>
    named.rooms connection (loses.connections member)⟩

theorem covers_loses : Covers Loses where
  refl _ := ⟨rfl, List.Subset.refl _⟩
  trans first second :=
    ⟨second.settings.trans first.settings, fun _ member =>
      first.connections (second.connections member)⟩
  drain _ _ := ⟨rfl, List.Subset.refl _⟩
  submit _ _ := ⟨rfl, List.Subset.refl _⟩
  disconnect _ _ := ⟨rfl, List.filter_subset_self _⟩

theorem loses_withMetrics (server : Server) (change : Metrics → Metrics) :
    server.Loses (server.withMetrics change) :=
  ⟨rfl, List.Subset.refl _⟩

theorem loses_stopHub (server : Server) : server.Loses server.stopHub.2 := by
  have stopped : server.Loses
      { server with
        node := (server.node.abort server.queues).1
        queues := (server.node.abort server.queues).2 } :=
    ⟨rfl, List.Subset.refl _⟩
  exact covers_loses.trans stopped (covers_loses.flush _)

theorem loses_loseOutbox (server : Server) : server.Loses server.loseOutbox := by
  unfold loseOutbox
  split
  · exact ⟨rfl, List.Subset.refl _⟩
  · exact covers_loses.refl server

section Answering

variable {server : Server} {occasion : Occasion} {request : Http.Request}

section Metering

variable {motive : Server → Prop}
  (observed : ∀ server bridge, motive server →
    motive (server.withMetrics (·.observeBridge bridge)))
  (noted : ∀ server method path status time, motive server →
    motive (server.withMetrics (·.noteRequest method path status time)))

include observed in
theorem answerMetrics_keeps (before : motive server) :
    motive (server.answerMetrics occasion).2 := by
  unfold answerMetrics
  cases server.bridge with
  | none =>
      dsimp only
      split <;> exact before
  | some bridge =>
      dsimp only
      split <;> exact observed server bridge before

include observed in
theorem answerRoute_keeps (before : motive server) (route : Http.Route) :
    motive (server.answerRoute occasion request route).2 := by
  cases route with
  | socket =>
      unfold answerRoute
      dsimp only
      split <;> exact before
  | metrics => exact answerMetrics_keeps observed before
  | rooms | room | health | live | ready => exact before

include observed noted

theorem answerCounted_keeps (before : motive server) (route : Http.Route) :
    motive (server.answerCounted occasion request route).2 := by
  unfold answerCounted
  dsimp only
  split
  · exact noted _ _ _ _ _ (answerRoute_keeps observed before route)
  · exact noted _ _ _ _ _ before

/-- An answer changes nothing but metrics: those of the bridge, and those of requests. -/
theorem answer_keeps (before : motive server) : motive (server.answer occasion request).2 := by
  unfold answer
  dsimp only
  split
  · exact before
  · split
    · exact before
    · next route _ =>
        have counted : motive (server.answerCounted occasion request route).2 :=
          answerCounted_keeps observed noted before route
        split
        all_goals
          next same =>
            rw [same] at counted
            exact counted

end Metering

theorem loses_answer (server : Server) (occasion : Occasion) (request : Http.Request) :
    server.Loses (server.answer occasion request).2 :=
  answer_keeps (fun after _ loses => covers_loses.trans loses (loses_withMetrics after _))
    (fun after _ _ _ _ loses => covers_loses.trans loses (loses_withMetrics after _))
    (covers_loses.refl server)

theorem answerRoute_eq_upgrade {route : Http.Route} {room : String}
    (opened : (server.answerRoute occasion request route).1 = .upgrade room) :
    ∃ requested, Http.Handshake.accept request = .ok requested ∧
      room = server.settings.resolveRoom requested := by
  cases route with
  | socket =>
      unfold answerRoute at opened
      dsimp only at opened
      split at opened
      · cases opened
      · next requested accepted =>
          cases opened
          exact ⟨requested, accepted, rfl⟩
  | metrics | rooms | room | health | live | ready => cases opened

/-- A connection that is opened starts in the room that is resolved for the one that the query
    names. -/
theorem answer_eq_upgrade {room : String}
    (opened : (server.answer occasion request).1 = .upgrade room) :
    ∃ requested, Http.Handshake.accept request = .ok requested ∧
      room = server.settings.resolveRoom requested := by
  unfold answer at opened
  dsimp only at opened
  split at opened
  · cases opened
  · split at opened
    · cases opened
    · next route _ =>
        split at opened
        · cases opened
        · next same =>
            cases opened
            unfold answerCounted at same
            by_cases known : methods.contains request.method = true
            · rw [if_pos known] at same
              exact answerRoute_eq_upgrade (congrArg Prod.fst same)
            · rw [if_neg known] at same
              cases same

end Answering

namespace Named

variable {server : Server}

theorem connect (named : server.Named) {room : String} (real : room ≠ "") :
    (server.connect room).2.2.Named := by
  have handed : server.Loses server.newHandle.2 := ⟨rfl, List.Subset.refl _⟩
  have joined := named.loses
    (covers_loses.trans handed (covers_loses.submit _ (.join room server.newHandle.1)))
  unfold Server.connect
  dsimp only
  split
  · next error after same =>
      rw [same] at joined
      exact joined
  · next done after same =>
      rw [same] at joined
      have opened : ({ after with connections := after.connections ++
          [⟨server.newHandle.1.client, server.newHandle.1.queue, room⟩] } : Server).Named := by
        refine ⟨joined.default, fun connection member => ?_⟩
        rcases List.mem_append.mp member with before | new
        · exact joined.rooms connection before
        · rw [List.mem_singleton.mp new]
          exact real
      have counted := opened.loses (loses_withMetrics _ Metrics.connectionOpened)
      exact counted.loses (covers_loses.flush _)

theorem prepare (named : server.Named) (connection : Connection) {reaction : Session.Reaction}
    (moves : ∀ target, reaction = .move target → target ≠ "") :
    (server.prepare connection reaction).Named := by
  cases reaction with
  | move target =>
      refine ⟨named.default, fun other member => ?_⟩
      obtain ⟨before, was, rfl⟩ := List.mem_map.mp member
      split
      · exact moves target rfl
      · exact named.rooms before was
  | close | ignore | relay _ | say _ => exact ⟨named.default, named.rooms⟩

theorem receive (named : server.Named) (client : ClientId) (now : Timestamp)
    (incoming : Incoming) : (server.receive client now incoming).2.Named := by
  rcases covers_loses.receive_cases server client now incoming with
    ⟨connection, data, -, -, result⟩ | loses
  · rw [result]
    have moves : ∀ target, Session.react connection.room now data = .move target → target ≠ "" :=
      fun target => Session.target_ne_empty
    exact (named.prepare connection moves).loses (covers_loses.perform server connection _)
  · exact named.loses loses

theorem meet (named : server.Named) (contact : Contact) : (server.meet contact).Named := by
  cases contact with
  | request occasion request =>
      have answered := named.loses (loses_answer server occasion request)
      cases answers : server.answer occasion request with
      | mk answer after =>
          rw [answers] at answered
          rw [Server.meet, answers]
          cases answer with
          | respond response => exact answered
          | upgrade room =>
              apply answered.connect
              obtain ⟨requested, -, rfl⟩ := answer_eq_upgrade (congrArg Prod.fst answers)
              intro unnamed
              exact named.default (ServerSettings.resolveRoom_eq_empty_iff.mp unnamed).2
  | incoming client now incoming => exact named.receive client now incoming
  | stop => exact named.loses (loses_stopHub server)
  | outage => exact named.loses (loses_loseOutbox server)

theorem serve (named : server.Named) (contacts : List Contact) :
    (server.serve contacts).Named := by
  induction contacts generalizing server with
  | nil => exact named
  | cons contact contacts ih => exact ih (named.meet contact)

end Named

end Server

/-- Whatever a file and the environment give for settings, whatever room a query names and whatever
    frames come then: all rooms that a session joins, moves to and speaks to have names, unless the
    query names none, the environment names none either and the file gives the empty name. Even then
    the session only moves to rooms with names. And where the file does not do this no connection of
    the server is ever in a room without a name. -/
theorem only_the_file_leaves_rooms_unnamed {env : Environment} {files : Files} {path : String}
    {settings : Settings} (loaded : Settings.loadWith env files path = .ok settings) :
    ∃ text, files.text path = .ok text ∧
      (∀ (requested : Option String) (handle : Handle) (frames : List (Timestamp × Bytes)),
        let commands := settings.server.session requested handle frames
        ((∀ command ∈ commands, ∀ room ∈ command.room?, room ≠ "") ↔
          ¬(requested.getD "" = "" ∧ Settings.LeavesUnnamed env text)) ∧
        ∀ client target, .switch client target ∈ commands → target ≠ "") ∧
      (¬Settings.LeavesUnnamed env text → ∀ id contacts,
        ∀ connection ∈ ((settings.launch id).serve contacts).connections,
          connection.room ≠ "") := by
  obtain ⟨text, read, unnamed⟩ := Settings.defaultRoom_loadWith loaded
  refine ⟨text, read, fun requested handle frames => ?_, fun stated id contacts => ?_⟩
  · have walk := walk_deeds
      ⟨handle.client, handle.queue, settings.server.resolveRoom requested⟩ frames
    refine ⟨?_, fun client target member => ?_⟩
    · rw [← unnamed, ← ServerSettings.resolveRoom_eq_empty_iff]
      constructor
      · intro named
        exact named _ List.mem_cons_self _ rfl
      · intro start
        exact List.forall_mem_cons.mpr ⟨by simpa [Command.room?], walk.named start⟩
    · rcases List.mem_cons.mp member with same | member
      · cases same
      · exact walk.switch_named member
  · have started : (settings.launch id).Named := ⟨mt unnamed.mp stated, nofun⟩
    exact (started.serve contacts).rooms

/-- One file and no others. -/
def Files.single (path content : String) : Files := fun other =>
  if other = path then .ok (Utf8.ofString content) else .error .missing

/-- A file that names the room of connections that name none. -/
theorem only_the_file_leaves_rooms_unnamed_lobby :
    let settings : Settings := { server := { defaultRoom := "Lobby" } }
    let files := Files.single "config.toml" "[server]\ndefault_room = \"Lobby\""
    Settings.loadWith .empty files "config.toml" = .ok settings ∧
      ∀ requested handle frames, ∀ command ∈ settings.server.session requested handle frames,
        ∀ room ∈ command.room?, room ≠ "" := by
  intro settings files
  have loaded : Settings.loadWith .empty files "config.toml" = .ok settings := by decide +kernel
  obtain ⟨text, read, sessions, -⟩ := only_the_file_leaves_rooms_unnamed loaded
  have stated : Settings.statedRoom? text = some "Lobby" := by
    have content : files.text "config.toml" =
        .ok "[server]\ndefault_room = \"Lobby\"".toList := by decide +kernel
    rw [Except.ok.inj (read.symm.trans content)]
    decide +kernel
  refine ⟨loaded, fun requested handle frames => (sessions requested handle frames).1.mpr ?_⟩
  rintro ⟨-, -, unnamed⟩
  rw [stated] at unnamed
  exact absurd unnamed (by decide)

/-- A file that gives connections that name no room the empty name: they join and speak to it. -/
theorem empty_default_room_is_joined :
    let settings : Settings := { server := { defaultRoom := "" } }
    let typing := Utf8.ofString "\x7b\"type\":\"typing\"\x7d"
    Settings.loadWith .empty (.single "config.toml" "[server]\ndefault_room = \"\"") "config.toml" =
        .ok settings ∧
      settings.server.session none ⟨0, 0⟩ [(⟨19000, 5, 6⟩, typing)] =
        [.join "" ⟨0, 0⟩, .broadcast ⟨"", typing, .here⟩] := by
  decide +kernel

end ChatRelay
