import ChatRelay.Proofs.Server.Operations
import ChatRelay.Proofs.Server.Translation

/-! # Frames are translated faithfully

A server does for a connection what is due for each of its frames and nothing else, whatever other
clients send in between: one request at most, which the hub accepts, and one message at most for the
store.
-/

namespace ChatRelay

/-- The frames of one client among all that clients send. -/
def framesOf (client : ClientId) (traffic : List (ClientId × Timestamp × Incoming)) :
    List (Timestamp × Bytes) :=
  traffic.filterMap fun
    | (sender, now, .data data) => if sender = client then some (now, data) else none
    | _ => none

namespace Server

/-- The server after all that clients send, one after the other. -/
def attend (server : Server) (traffic : List (ClientId × Timestamp × Incoming)) : Server :=
  traffic.foldl (fun server (client, now, incoming) => (server.receive client now incoming).2) server

/-- What a server does on behalf of a connection when it does a deed: it ends the connection, or
    nothing, or it makes the one request, which the hub accepts. -/
inductive Acts (server : Server) (connection : Connection) (deed : Deed) : Sent × Server → Prop
  | close (closed : deed.room? = none) (silent : deed.requests = []) :
      Acts server connection deed (server.hangUp connection)
  | ignore (stays : deed.room? = some connection.room) (silent : deed.requests = []) :
      Acts server connection deed ([], server)
  | ask {prepared : Server} {command : Command} (asks : deed.requests = [command])
      (node : prepared.node = server.node) (queues : prepared.queues = server.queues)
      (accepted : (prepared.submit command).1 = .ok ()) :
      Acts server connection deed (prepared.submit command).2.flush

/-- A server does a deed for a connection. If the connection is open after that, it goes on in the
    room of the deed. -/
structure Does (server : Server) (connection : Connection) (deed : Deed) (result : Sent × Server) :
    Prop where
  acts : server.Acts connection deed result
  store : result.2.sink =
    server.sink.map fun sink => { sink with handed := sink.handed ++ deed.handed }
  place : result.2.connection? connection.client = none ∨
    ∃ room, deed.room? = some room ∧
      result.2.connection? connection.client = some { connection with room }

/-- What a server may do beside deeds: it ends connections. -/
structure Settles (server after : Server) : Prop where
  sink : after.sink = server.sink
  ready : server.node.loop.Ready → after.node.loop.Ready
  places : ∀ client,
    after.connection? client = none ∨ after.connection? client = server.connection? client

namespace Settles

variable {server after later : Server}

theorem refl (server : Server) : server.Settles server := ⟨rfl, id, fun _ => .inr rfl⟩

theorem trans (first : server.Settles after) (second : after.Settles later) :
    server.Settles later where
  sink := second.sink.trans first.sink
  ready ready := second.ready (first.ready ready)
  places client := by
    rcases second.places client with gone | same
    · exact .inl gone
    · rw [same]
      exact first.places client

end Settles

section Settling

/-! ## What is done beside deeds -/

variable (server : Server)

theorem settles_submit (command : Command) : server.Settles (server.submit command).2 where
  sink := rfl
  ready ready := ready_submit ready command server.queues
  places _ := .inr rfl

theorem connection?_disconnect (connection : Connection) (client : ClientId) :
    (server.disconnect connection).connection? client =
      if connection.client = client then none else server.connection? client := by
  change List.find? _ (List.filter _ _) = _
  rw [List.find?_filter]
  split
  · next same =>
      refine List.find?_eq_none.mpr fun other _ => ?_
      simp [same]
  · next apart =>
      refine congrArg (List.find? · server.connections) (funext fun other => ?_)
      by_cases same : other.client = client <;> simp [same, Ne.symm apart]

theorem settles_disconnect (connection : Connection) :
    server.Settles (server.disconnect connection) where
  sink := rfl
  ready ready := ready_submit ready (.disconnect connection.client) _
  places client := by
    rw [connection?_disconnect]
    split
    · exact .inl rfl
    · exact .inr rfl

theorem covers_settles : Covers Settles where
  refl := .refl
  trans := .trans
  drain _ _ := ⟨rfl, id, fun _ => .inr rfl⟩
  submit := settles_submit
  disconnect := settles_disconnect

end Settling

section Performing

/-! ## A reaction is carried out as a deed -/

variable {server : Server} {connection : Connection}

theorem client_of_connection? {client : ClientId}
    (found : server.connection? client = some connection) : connection.client = client := by
  simpa using List.find?_some found

theorem connection?_prepare (reaction : Session.Reaction) (client : ClientId) :
    (server.prepare connection reaction).connection? client =
      (server.connection? client).map fun other =>
        if other.client = connection.client then
          { other with room := reaction.roomAfter other.room }
        else other := by
  cases reaction with
  | move room =>
      change List.find? _ (List.map _ _) = _
      rw [List.find?_map]
      refine congrArg (Option.map _) (congrArg (List.find? · _) (funext fun other => ?_))
      simp only [Function.comp_apply]
      split <;> rfl
  | close | ignore | relay _ | say _ =>
      change server.connection? client = _
      simp [Session.Reaction.roomAfter]

theorem kept_handed (sink : Option Sink) :
    sink = sink.map fun sink => { sink with handed := sink.handed ++ [] } := by
  cases sink <;> simp

theorem prepare_asking (server : Server) {reaction : Session.Reaction} {command : Command}
    (asks : reaction.command? connection = some command) :
    (server.prepare connection reaction).sink = server.sink.map (fun sink =>
        { sink with handed := sink.handed ++ (reaction.deed connection).handed }) ∧
      (reaction.deed connection).room? = some (reaction.roomAfter connection.room) := by
  cases reaction with
  | close => cases asks
  | ignore => cases asks
  | move room => exact ⟨kept_handed server.sink, rfl⟩
  | relay data => exact ⟨kept_handed server.sink, rfl⟩
  | say message => exact ⟨rfl, rfl⟩

theorem does_perform (found : server.connection? connection.client = some connection)
    (ready : server.node.loop.Ready) (reaction : Session.Reaction) :
    server.Does connection (reaction.deed connection) (server.perform connection reaction) := by
  cases asks : reaction.command? connection with
  | none =>
      have silent : (reaction.deed connection).requests = [] := congrArg Option.toList asks
      cases reaction with
      | close =>
          refine ⟨.close rfl silent, ?_, .inl ?_⟩
          · exact (settles_disconnect server connection).sink.trans (kept_handed _)
          · exact (connection?_disconnect server connection _).trans (if_pos rfl)
      | ignore => exact ⟨.ignore rfl silent, kept_handed _, .inr ⟨_, rfl, found⟩⟩
      | move room => cases asks
      | relay data => cases asks
      | say message => cases asks
  | some command =>
      obtain ⟨node, queues⟩ := prepare_node server connection reaction
      obtain ⟨sink, goes⟩ := prepare_asking server asks
      have accepted : ((server.prepare connection reaction).submit command).1 = .ok () :=
        accepted_submit (node ▸ ready) command
      have settles := (settles_submit (server.prepare connection reaction) command).trans
        (covers_settles.flush _)
      have result : server.perform connection reaction =
          ((server.prepare connection reaction).submit command).2.flush := by
        rw [perform_asking asks, request, ← Prod.eta (submit _ command), accepted]
      rw [result]
      refine ⟨.ask (congrArg Option.toList asks) node queues accepted, settles.sink.trans sink, ?_⟩
      rcases settles.places connection.client with gone | same
      · exact .inl gone
      · refine .inr ⟨_, goes, ?_⟩
        rw [same, connection?_prepare, found, Option.map_some, if_pos rfl]

end Performing

section Attending

/-! ## Frames of one connection among all that clients send -/

variable {server : Server} {client sender : ClientId} {connection : Connection} {now : Timestamp}
  {incoming : Incoming}

theorem receive_data (found : server.connection? client = some connection) (now : Timestamp)
    (data : Bytes) :
    server.receive client now (.data data) =
      server.perform connection (Session.react connection.room now data) := by
  rw [receive, found]

theorem receive_gone (gone : server.connection? client = none) (now : Timestamp)
    (incoming : Incoming) : server.receive client now incoming = ([], server) := by
  rw [receive, gone]

theorem ready_receive (ready : server.node.loop.Ready) (sender : ClientId) (now : Timestamp)
    (incoming : Incoming) : (server.receive sender now incoming).2.node.loop.Ready := by
  rcases covers_settles.receive_cases server sender now incoming with
    ⟨connection, data, -, -, result⟩ | settles
  · rw [result]
    have node := (prepare_node server connection (Session.react connection.room now data)).1
    exact (covers_settles.perform server connection _).ready (node ▸ ready)
  · exact settles.ready ready

/-- What is no frame of a client does not move its session. -/
theorem receive_strange (server : Server) (now : Timestamp)
    (strange : sender ≠ client ∨ ∀ data, incoming ≠ .data data) :
    (server.receive sender now incoming).2.connection? client = none ∨
      (server.receive sender now incoming).2.connection? client = server.connection? client := by
  rcases covers_settles.receive_cases server sender now incoming with
    ⟨connection, data, is, found, result⟩ | settles
  · have apart : sender ≠ client := strange.resolve_right fun none => none data is
    have same := client_of_connection? found
    rw [result]
    rcases (covers_settles.perform server connection _).places client with gone | place
    · exact .inl gone
    · right
      rw [place, connection?_prepare]
      cases there : server.connection? client with
      | none => rfl
      | some other =>
          have other : other.client ≠ connection.client := by
            rw [client_of_connection? there, same]
            exact Ne.symm apart
          rw [Option.map_some, if_neg other]
  · exact settles.places client

theorem gone_attend (gone : server.connection? client = none)
    (traffic : List (ClientId × Timestamp × Incoming)) :
    (server.attend traffic).connection? client = none := by
  induction traffic generalizing server with
  | nil => exact gone
  | cons item traffic ih =>
      obtain ⟨sender, now, incoming⟩ := item
      have still : (server.receive sender now incoming).2.connection? client = none := by
        by_cases own : sender = client
        · subst own
          rw [receive_gone gone]
          exact gone
        · rcases receive_strange server now (.inl own) with still | same
          · exact still
          · exact same.trans gone
      exact ih still

theorem framesOf_strange (strange : sender ≠ client ∨ ∀ data, incoming ≠ .data data)
    (traffic : List (ClientId × Timestamp × Incoming)) :
    framesOf client ((sender, now, incoming) :: traffic) = framesOf client traffic := by
  cases incoming with
  | data data =>
      have apart : sender ≠ client := strange.resolve_right fun none => none data rfl
      simp [framesOf, apart]
  | ping | pong | close | lost => rfl

theorem framesOf_frame (client : ClientId) (now : Timestamp) (data : Bytes)
    (traffic : List (ClientId × Timestamp × Incoming)) :
    framesOf client ((client, now, .data data) :: traffic) =
      (now, data) :: framesOf client traffic := by
  simp [framesOf]

theorem ready_attend (ready : server.node.loop.Ready)
    (traffic : List (ClientId × Timestamp × Incoming)) :
    (server.attend traffic).node.loop.Ready := by
  induction traffic generalizing server with
  | nil => exact ready
  | cons item traffic ih => exact ih (ready_receive ready item.1 item.2.1 item.2.2)

/-- Whatever has been sent before, the next frame of a connection that is still open is dealt with
    by the deed whose turn it is. -/
theorem does_attended (found : server.connection? connection.client = some connection)
    (ready : server.node.loop.Ready) (before : List (ClientId × Timestamp × Incoming))
    (now : Timestamp) (data : Bytes) (after : List (ClientId × Timestamp × Incoming))
    {there : Connection}
    (still : (server.attend before).connection? connection.client = some there) :
    ∃ deed, (connection.deeds (framesOf connection.client
        (before ++ (connection.client, now, .data data) :: after)))[(framesOf
          connection.client before).length]? = some deed ∧
      (server.attend before).Does there deed
        ((server.attend before).receive connection.client now (.data data)) := by
  -- The first item may move the connection; the others find it in its new room.
  induction before generalizing server connection with
  | nil =>
      cases found.symm.trans still
      refine ⟨_, ?_, receive_data found now data ▸ does_perform found ready _⟩
      rw [List.nil_append, framesOf_frame, Connection.deeds_cons]
      rfl
  | cons item before ih =>
      obtain ⟨sender, moment, incoming⟩ := item
      have goesOn := ready_receive ready sender moment incoming
      rw [List.cons_append]
      by_cases own : sender = connection.client ∧ ∃ earlier, incoming = .data earlier
      · obtain ⟨rfl, earlier, rfl⟩ := own
        have does := does_perform found ready (Session.react connection.room moment earlier)
        rw [← receive_data found] at does
        rcases does.place with gone | ⟨room, goes, moved⟩
        · exact nomatch (gone_attend gone before).symm.trans still
        · have found : (server.receive connection.client moment (.data earlier)).2.connection?
              ({ connection with room } : Connection).client = some { connection with room } := moved
          obtain ⟨deed, turn, does⟩ := ih found goesOn still
          refine ⟨deed, ?_, does⟩
          rw [framesOf_frame, framesOf_frame, Connection.deeds_cons]
          simp only [goes]
          exact turn
      · have strange : sender ≠ connection.client ∨ ∀ data, incoming ≠ .data data := by
          by_cases same : sender = connection.client
          · exact .inr fun data is => own ⟨same, data, is⟩
          · exact .inl same
        rw [framesOf_strange strange, framesOf_strange strange]
        rcases receive_strange server moment strange with gone | same
        · exact nomatch (gone_attend gone before).symm.trans still
        · exact ih (same.trans found) goesOn still

end Attending

end Server

/-- For the frames of a connection, whatever else is sent in between, there is one list of deeds that
    are due, and the server does each of them at its turn, as long as the connection is open. A
    message is passed on with the object of its frame, but for room and time, if those of its
    numbers that are no integers are read from their own shortest text. -/
theorem frames_are_translated_faithfully (connection : Connection)
    {traffic : List (ClientId × Timestamp × Incoming)}
    (sound : ∀ item ∈ traffic, item.2.1.Sound) :
    ∃ deeds,
      Translation connection.client connection.room (framesOf connection.client traffic) deeds ∧
      (∀ others,
        Translation connection.client connection.room (framesOf connection.client traffic) others →
        others = deeds) ∧
      ∀ server : Server, server.connection? connection.client = some connection →
        server.node.loop.Ready →
        ∀ before now data after, traffic = before ++ (connection.client, now, .data data) :: after →
          (server.attend before).node.loop.Ready ∧
          ∀ there, (server.attend before).connection? connection.client = some there →
            ∃ deed, deeds[(framesOf connection.client before).length]? = some deed ∧
              (server.attend before).Does there deed
                ((server.attend before).receive connection.client now (.data data)) := by
  have soundFrames : ∀ frame ∈ framesOf connection.client traffic, frame.1.Sound := by
    intro frame member
    obtain ⟨item, among, is⟩ := List.mem_filterMap.mp member
    obtain ⟨sender, now, incoming⟩ := item
    cases incoming with
    | data data =>
        simp only [Option.ite_none_right_eq_some, Option.some.injEq] at is
        exact is.2 ▸ sound _ among
    | ping | pong | close | lost => cases is
  refine ⟨connection.deeds (framesOf connection.client traffic),
    translation_deeds connection soundFrames, fun others => Translation.eq_deeds, ?_⟩
  rintro server found ready before now data after rfl
  refine ⟨Server.ready_attend ready before, fun there still => ?_⟩
  exact Server.does_attended found ready before now data after still

/-- A client joins another room and then says something there that is no message. -/
theorem frames_are_translated_faithfully_joined :
    let now : Timestamp := ⟨19000, 5, 6⟩
    let join := Utf8.ofString "\x7b\"type\":\"join\",\"room\":\"B\"\x7d"
    let typing := Utf8.ofString "\x7b\"type\":\"typing\"\x7d"
    let server : Server :=
      { node := .start .zero {}
        queues := (∅ : Queues).insert 0 (.ofCapacity 4)
        connections := [⟨0, 0, "A"⟩] }
    let here := server.attend [(0, now, .data join)]
    ∃ deeds deed, Translation 0 "A" [(now, join), (now, typing)] deeds ∧ deeds[1]? = some deed ∧
      here.Does ⟨0, 0, "B"⟩ deed (here.receive 0 now (.data typing)) := by
  intro now join typing server here
  have sound : ∀ item ∈ [((0 : ClientId), now, Incoming.data join), (0, now, .data typing)],
      item.2.1.Sound := by
    intro item member
    simp only [List.mem_cons, List.not_mem_nil, or_false] at member
    rcases member with rfl | rfl <;> constructor <;> decide
  have moved : here.connection? 0 = some ⟨0, 0, "B"⟩ := by decide +kernel
  obtain ⟨deeds, translation, -, serves⟩ :=
    frames_are_translated_faithfully (⟨0, 0, "A"⟩ : Connection) sound
  obtain ⟨-, each⟩ := serves server rfl ⟨rfl, rfl, by decide, by decide⟩
    [(0, now, .data join)] now typing [] rfl
  obtain ⟨deed, turn, does⟩ := each _ moved
  exact ⟨deeds, deed, translation, turn, does⟩

/-- A number that is not read from its own shortest text is another one for those who read the
    message. -/
theorem large_number_is_changed :
    let now : Timestamp := ⟨19000, 5, 6⟩
    let data := Utf8.ofString "\x7b\"type\":\"message\",\"x\":3.4028234663852886e38\x7d"
    ∃ frame, Frame.decode data = .ok frame ∧ frame.IsOf "message" ∧ frame.Fits ∧
      Session.react "A" now data = .say (frame.pinned "A" now) ∧
      Frame.decode (frame.pinned "A" now).encode ≠
        .ok ⟨frame.objectAt "A" (frame.time?.getD now)⟩ := by
  intro now data
  have told : (Frame.decode data).toOption.map (fun frame =>
      let object := frame.objectAt "A" (frame.time?.getD now)
      (frame.text? "type", frame.message?.isSome, Json.sameFields object object,
        (Frame.decode (frame.pinned "A" now).encode).toOption.map
          fun again => Json.sameFields again.fields object)) =
      some (some "message", true, true, some false) := by
    decide +kernel
  cases read : Frame.decode data with
  | error fault =>
      rw [read] at told
      cases told
  | ok frame =>
      rw [read] at told
      simp only [Except.toOption, Option.map_some, Option.some.injEq, Prod.mk.injEq] at told
      obtain ⟨said, is, itself, changed⟩ := told
      have type : frame.IsOf "message" := Frame.text?_eq_some_iff.mp said
      obtain ⟨m, is⟩ := Option.isSome_iff_exists.mp is
      obtain ⟨fits, rfl⟩ := Frame.message?_eq_some_iff.mp is
      refine ⟨frame, rfl, type, fits, ?_, fun same => ?_⟩
      · rw [Session.react, read]
        simp only [Frame.kind_message_iff.mpr type, is]
        rfl
      · rw [same] at changed
        simp only [Option.map_some, itself] at changed
        cases changed

end ChatRelay
