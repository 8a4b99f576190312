import ChatRelay.Proofs.Hub.Broadcasts
import ChatRelay.Proofs.Json.Source
import ChatRelay.Proofs.Server.Whereabouts

/-! # Who brings a payload in

A payload comes to a hub in a step of a connection's pump or in a step of somebody else, and a step
brings in one payload at most. What is in the channel, in a queue or on the bus after a step was
there before or has just been brought in.

A frame is only accepted if it is JSON, and JSON is text, so all that a pump brings in is text,
whether it goes on as it came or is stamped and written anew.
-/

namespace ChatRelay

open Utf8 (IsText)

/-! ## What a frame leads to -/

theorem Frame.isText_of_decode {data : Bytes} {frame : Frame} (decoded : decode data = .ok frame) :
    IsText data := by
  unfold decode at decoded
  cases read : Json.document readObject data with
  | error fault =>
      rw [read] at decoded
      cases decoded
  | ok fields =>
      refine Json.isText_of_document (fun {rest} begun => ?_) read
      have blanks := Json.takes_blanks data
      unfold readObject at begun
      split at begun
      · next left brace =>
          rw [brace] at blanks
          obtain ⟨⟨v, left'⟩, one, begun⟩ := Json.of_bind begun
          cases v with
          | object fields =>
              cases begun
              exact blanks.trans (Json.takes_value one)
          | _ => cases begun
      · exact absurd begun Json.refuse_ne_ok

theorem Message.isText_encode (message : Message) : IsText message.encode := Json.isText_print _

theorem Session.isText_payload {room : String} {now : Timestamp} {data payload : Bytes}
    (said : (react room now data).payload? = some payload) : IsText payload := by
  unfold react at said
  split at said
  · cases said
  · next frame decoded =>
      split at said
      · cases said
        exact Frame.isText_of_decode decoded
      · cases said
      · split at said <;> cases said
      · cases said
        exact Message.isText_encode _

theorem Envelope.Spoken.isText {envelope : Envelope} (spoken : envelope.Spoken) :
    IsText envelope.payload := by
  obtain ⟨-, now, data, said⟩ := spoken
  exact Session.isText_payload said

/-! ## How a payload is sent -/

/-- Text is sent as text, with its bytes. -/
theorem Outgoing.ofPayload_text {data : Bytes} (isText : IsText data) :
    ∃ text, ofPayload data = .text text ∧ Utf8.ofString text = data := by
  obtain ⟨text, rfl⟩ := isText
  refine ⟨String.ofList text, ?_, by rw [Utf8.ofString, String.toList_ofList]⟩
  rw [ofPayload, Utf8.toString?, Utf8.decode?_encode, Option.map_some]

theorem Outgoing.ofPayload_binary {data content : Bytes} (sent : ofPayload data = .binary content) :
    content = data ∧ ¬IsText data := by
  refine ⟨?_, fun isText => ?_⟩
  · unfold ofPayload at sent
    split at sent
    · cases sent
    · cases sent
      rfl
  · obtain ⟨text, sentText, -⟩ := ofPayload_text isText
    cases sentText.symm.trans sent

theorem Command.eq_broadcast {command : Command} {envelope : Envelope}
    (asks : envelope ∈ command.envelope?) : command = .broadcast envelope := by
  cases command <;> cases asks
  rfl

theorem Envelope.of_outgoing {envelope : Envelope} {room : String} {payload : Bytes}
    (sent : (room, payload) ∈ envelope.outgoing) : payload = envelope.payload := by
  unfold outgoing at sent
  split at sent
  · cases List.mem_singleton.mp sent
    rfl
  · cases sent

namespace World

/-- Whether a request gets into the channel at once. -/
def accepts (world : World) (command : Command) : Bool :=
  world.loop.canUpgrade ∧ EventLoop.carried command ⊆ world.loose ∧
    (world.loop.submit command).1 = .accepted

/-- A request in the channel was there before or has just been accepted. -/
theorem mem_pending_step {world : World} {move : WorldMove} {command : Command}
    (waits : command ∈ (world.step move).loop.pending) :
    command ∈ world.loop.pending ∨ move = .submit command ∧ world.accepts command = true := by
  by_cases quiet : ∃ request, move = .submit request
  · obtain ⟨request, rfl⟩ := quiet
    by_cases possible : world.loop.canUpgrade = true ∧ EventLoop.carried request ⊆ world.loose
    · cases submitted : world.loop.submit request with
      | mk submission loop =>
          cases submission with
          | accepted =>
              rw [step, if_pos possible, submitted, EventLoop.eq_of_submit submitted] at waits
              rcases List.mem_append.mp waits with before | new
              · exact .inl before
              · cases List.mem_singleton.mp new
                exact .inr ⟨rfl, by simp [accepts, possible, submitted]⟩
          | waiting =>
              rw [step, if_pos possible, submitted] at waits
              exact .inl waits
          | refused =>
              rw [step, if_pos possible, submitted] at waits
              exact .inl waits
    · rw [step, if_neg possible] at waits
      exact .inl waits
  · have other : ∀ request, move ≠ .submit request := fun request same => quiet ⟨request, same⟩
    rcases world.channel_cases other with
      ⟨first, rest, -, next, left⟩ | ⟨pending, -⟩ | ⟨pending, -⟩
    · rw [left] at waits
      rw [next]
      exact .inl (List.mem_cons_of_mem _ waits)
    · rw [pending] at waits
      exact .inl waits
    · rw [pending] at waits
      cases waits

/-- What a hub hands over to other instances was a broadcast that waited. -/
theorem mem_accepted {world : World} {move : WorldMove} {room : String} {payload : Bytes}
    (accepted : (room, payload) ∈ (world.reports move).filterMap Event.accepted?) :
    ∃ envelope : Envelope, .broadcast envelope ∈ world.loop.pending ∧
      envelope.payload = payload := by
  cases processed : world.processing? move with
  | none =>
      rw [reports_idle processed] at accepted
      cases accepted
  | some command =>
      obtain ⟨fanout, rest, rfl, -, next⟩ := processing?_eq_some processed
      rw [reports_processing processed] at accepted
      cases fanout with
      | none =>
          rw [Hub.filterMap_process fun _ => rfl] at accepted
          cases command with
          | broadcast envelope =>
              simp only [Hub.publish_snd] at accepted
              cases accepted
          | _ => cases accepted
      | some accepts =>
          rw [Hub.filterMap_accepted] at accepted
          split at accepted
          · obtain ⟨envelope, asked, sent⟩ := List.mem_flatMap.mp accepted
            obtain rfl := Command.eq_broadcast (Option.mem_toList.mp asked)
            exact ⟨envelope, next ▸ List.mem_cons_self, (Envelope.of_outgoing sent).symm⟩
          · cases accepted

end World

/-! ## The steps of a switchboard -/

/-- The request that a connection makes in a step, if it makes one. -/
def Line.request? (client : ClientId) (line : Line) : SwitchboardMove → Option Command
  | .enter _ =>
      if line.stage = .joining then
        some (.join line.connection.room ⟨client, line.connection.queue⟩)
      else none
  | .request _ =>
      match line.pump with
      | .asking command _ => some command
      | _ => none
  | .leave _ => if line.stage = .leaving then some (.disconnect client) else none
  | _ => none

namespace Switchboard

variable {board : Switchboard} {move : SwitchboardMove}

/-- What a step is for the hub and its clients, if it is anything for them. -/
def worldMove? (board : Switchboard) (move : SwitchboardMove) : Option WorldMove :=
  match move with
  | .dial handle capacity _ =>
      if board.unknown handle.client ∧ handle.queue ∉ board.world.queues then
        some (.connect handle capacity)
      else none
  | .submit command => if board.admits command then some (.submit command) else none
  | .other move => if board.allows move then some move else none
  | move =>
      match move.line? with
      | some client =>
          match board.lines[client]? with
          | some line => (line.request? client move).map .submit
          | none => none
      | none => none

theorem world_ask (board : Switchboard) (author : Option ClientId) (command : Command) :
    (board.ask author command).2.world = board.world.step (.submit command) := by
  unfold ask
  split
  · rfl
  · next impossible => rw [World.step, if_neg impossible]

theorem world_lineStep (client : ClientId) (line : Line) (move : SwitchboardMove) :
    (board.lineStep client line move).world =
      match line.request? client move with
      | some command => board.world.step (.submit command)
      | none => board.world := by
  -- whatever comes of a request, the line changes beside the hub
  cases move with
  | enter other =>
      simp only [lineStep, Line.request?]
      split
      · next joining =>
          have asked := world_ask board none
            (.join line.connection.room ⟨client, line.connection.queue⟩)
          generalize board.ask none _ = outcome at asked ⊢
          obtain ⟨submission, after⟩ := outcome
          cases submission <;> exact asked
      · rfl
  | request other =>
      simp only [lineStep, Line.request?]
      cases line.pump with
      | asking command room =>
          have asked := world_ask board (some client) command
          dsimp only
          generalize board.ask (some client) _ = outcome at asked ⊢
          obtain ⟨submission, after⟩ := outcome
          cases submission <;> exact asked
      | off | idle => rfl
  | leave other =>
      simp only [lineStep, Line.request?]
      split
      · next leaving =>
          have asked := world_ask board none (.disconnect client)
          generalize board.ask none _ = outcome at asked ⊢
          obtain ⟨submission, after⟩ := outcome
          cases submission <;> exact asked
      · rfl
  | frame | part =>
      simp only [lineStep, Line.request?]
      split <;> rfl
  | hush | dial | submit | other => rfl

theorem world_step (board : Switchboard) (move : SwitchboardMove) :
    (board.step move).world = board.world.run (board.worldMove? move).toList := by
  cases move with
  | dial handle capacity room =>
      simp only [step, worldMove?]
      split <;> rfl
  | submit command =>
      simp only [step, worldMove?]
      split
      · exact world_ask board none command
      · rfl
  | other move =>
      simp only [step, worldMove?]
      split <;> rfl
  | enter client | frame client _ _ | request client | hush client | part client | leave client =>
      simp only [step, worldMove?, SwitchboardMove.line?]
      cases board.lines[client]? with
      | none => rfl
      | some line =>
          dsimp only
          rw [world_lineStep]
          cases line.request? _ _ <;> rfl

/-- The client whose pump makes the request of a step. -/
def author? : SwitchboardMove → Option ClientId
  | .request client => some client
  | _ => none

/-- The payload that a step brings in, if it brings one, with the client whose pump it is from. -/
def voiced (board : Switchboard) (move : SwitchboardMove) : Option (Option ClientId × Bytes) :=
  match board.worldMove? move with
  | some (.submit (.broadcast envelope)) =>
      if board.world.accepts (.broadcast envelope) then some (author? move, envelope.payload)
      else none
  | some (.push _ payload) => some (none, payload)
  | _ => none

/-- All that a pump says is text. -/
theorem Sound.isText_voiced (sound : board.Sound) {client : ClientId} {payload : Bytes}
    (said : board.voiced move = some (some client, payload)) : IsText payload := by
  unfold voiced at said
  split at said
  · next envelope asked =>
      split at said
      · cases move with
        | request other =>
            cases said
            simp only [worldMove?, SwitchboardMove.line?] at asked
            split at asked
            · next line found =>
                cases pump : line.pump with
                | asking command room =>
                    simp only [Line.request?, pump, Option.map_some, Option.some.injEq,
                      WorldMove.submit.injEq] at asked
                    subst asked
                    rcases (sound.settled _ line found).asks _ room pump with
                      same | ⟨envelope', same, spoken, -⟩
                    · cases same
                    · cases same
                      exact spoken.isText
                | off | idle => simp [Line.request?, pump] at asked
            · cases asked
        | _ => cases said
      · cases said
  · cases said
  · cases said

theorem eq_of_voiced_submit {envelope : Envelope} {author : Option ClientId} {payload : Bytes}
    (voiced : board.voiced (.submit (.broadcast envelope)) = some (author, payload)) :
    payload = envelope.payload := by
  simp only [Switchboard.voiced, worldMove?, admits, if_true] at voiced
  split at voiced
  · cases voiced
    rfl
  · cases voiced

/-- A broadcast in the channel was there before or has just been brought in. -/
theorem mem_pending_step {envelope : Envelope}
    (waits : .broadcast envelope ∈ (board.step move).world.loop.pending) :
    .broadcast envelope ∈ board.world.loop.pending ∨
      board.voiced move = some (author? move, envelope.payload) := by
  rw [world_step] at waits
  cases asked : board.worldMove? move with
  | none =>
      rw [asked] at waits
      exact .inl waits
  | some step =>
      rw [asked] at waits
      have waits : .broadcast envelope ∈ (board.world.step step).loop.pending := waits
      rcases World.mem_pending_step waits with before | ⟨rfl, accepted⟩
      · exact .inl before
      · exact .inr (by simp only [voiced, asked, accepted, if_true])

/-- What a step has arrive in a queue waited in the channel or has just been brought in. -/
theorem Sound.mem_arrived (sound : board.Sound) {queue : QueueId} {payload : Bytes}
    (arrived : payload ∈
      World.gather (World.arrived queue) board.world (board.worldMove? move).toList) :
    (∃ envelope : Envelope, .broadcast envelope ∈ board.world.loop.pending ∧
      envelope.payload = payload) ∨ board.voiced move = some (none, payload) := by
  obtain ⟨roster, world⟩ := sound.world
  cases asked : board.worldMove? move with
  | none =>
      rw [asked] at arrived
      cases arrived
  | some step =>
      rw [asked] at arrived
      simp only [Option.toList_some, World.gather, List.append_nil] at arrived
      rcases world.mem_arrived arrived with ⟨handle, rfl⟩ | waits
      · exact .inr (by simp only [voiced, asked])
      · exact .inl waits

/-- What a step lets an instance put on the bus. -/
def posts (node : Node) (board : Switchboard) (move : SwitchboardMove) : List (String × Bytes) :=
  (board.worldMove? move).toList.flatMap fun step => node.announced (board.world.reports step)

theorem mem_posts {node : Node} {message : String × Bytes}
    (posted : message ∈ board.posts node move) :
    ∃ envelope : Envelope, .broadcast envelope ∈ board.world.loop.pending ∧
      message.2 = Wire.encode node.id envelope.payload := by
  obtain ⟨step, -, told⟩ := List.mem_flatMap.mp posted
  rw [Node.announced_eq] at told
  obtain ⟨⟨room, payload⟩, accepted, rfl⟩ := List.mem_map.mp told
  obtain ⟨envelope, waits, rfl⟩ := World.mem_accepted accepted
  exact ⟨envelope, waits, rfl⟩

end Switchboard

end ChatRelay
