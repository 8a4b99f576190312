import ChatRelay.Proofs.Chat.Pinning
import ChatRelay.Proofs.Server.Switchboard

/-! # What is due for a frame

The pump of a connection takes frames one after the other. It closes the connection on a frame that
is not acceptable; it passes on anything that is neither a message nor a join as it came; it hands a
message to the store and passes it on pinned to the room that the session is in; and it asks for the
room that a join names, where the session then is.

A deed is what the pump does with one frame. Which deed is due is said here by the fields of the
frame's object alone.
-/

namespace ChatRelay

structure Deed where
  /-- What the hub is asked for. -/
  requests : List Command
  /-- What the store is handed. -/
  handed : List Message
  /-- The room that the session is in afterwards, unless the connection is closed. -/
  room? : Option String

/-- The deed that is due for a frame that arrives at `now` in a session that is in `room`. -/
inductive Due (client : ClientId) (room : String) (now : Timestamp) (data : Bytes) : Deed → Prop
  | unreadable {fault : Json.Fault} (read : Frame.decode data = .error fault) :
      Due client room now data ⟨[], [], none⟩
  | misfit {frame : Frame} (read : Frame.decode data = .ok frame)
      (type : frame.IsOf "message" ∨ frame.IsOf "join") (misfit : ¬frame.Fits) :
      Due client room now data ⟨[], [], none⟩
  | relay {frame : Frame} (read : Frame.decode data = .ok frame)
      (type : ¬(frame.IsOf "message" ∨ frame.IsOf "join")) :
      Due client room now data ⟨[.broadcast ⟨room, data, .here⟩], [], some room⟩
  | say {frame : Frame} {time : Timestamp} (read : Frame.decode data = .ok frame)
      (type : frame.IsOf "message") (fits : frame.Fits) (moment : frame.time?.getD now = time)
      (back : Timestamp.parse? time.text.toList = some time)
      (shown : (∀ x ∈ (frame.pinned room now).reals, Json.ReadsBack x) →
        Frame.decode (frame.pinned room now).encode = .ok ⟨frame.objectAt room time⟩) :
      Due client room now data
        ⟨[.broadcast ⟨room, (frame.pinned room now).encode, .here⟩], [frame.pinned room now],
          some room⟩
  | move {frame : Frame} {target : String} (read : Frame.decode data = .ok frame)
      (type : frame.IsOf "join") (fits : frame.Fits) (named : frame.text? "room" = some target)
      (real : target ≠ "") :
      Due client room now data ⟨[.switch client target], [], some target⟩
  | stay {frame : Frame} (read : Frame.decode data = .ok frame) (type : frame.IsOf "join")
      (fits : frame.Fits) (unnamed : ∀ target, frame.text? "room" = some target → target = "") :
      Due client room now data ⟨[], [], some room⟩

/-- Deeds that are due for frames that come one after the other. None is done after the one that
    closes the connection. -/
inductive Translation (client : ClientId) :
    String → List (Timestamp × Bytes) → List Deed → Prop
  | done {room : String} : Translation client room [] []
  | last {room : String} {now : Timestamp} {data : Bytes} {frames : List (Timestamp × Bytes)}
      {deed : Deed} (due : Due client room now data deed) (closed : deed.room? = none) :
      Translation client room ((now, data) :: frames) [deed]
  | next {room after : String} {now : Timestamp} {data : Bytes}
      {frames : List (Timestamp × Bytes)} {deed : Deed} {deeds : List Deed}
      (due : Due client room now data deed) (goes : deed.room? = some after)
      (rest : Translation client after frames deeds) :
      Translation client room ((now, data) :: frames) (deed :: deeds)

/-- What a pump does when it reacts. -/
def Session.Reaction.deed (connection : Connection) (reaction : Session.Reaction) : Deed where
  requests := (reaction.command? connection).toList
  handed := match reaction with
    | .say message => [message]
    | _ => []
  room? := match reaction with
    | .close => none
    | reaction => some (reaction.roomAfter connection.room)

/-- What the pump of a connection does with frames that come one after the other. -/
def Connection.deeds (connection : Connection) : List (Timestamp × Bytes) → List Deed
  | [] => []
  | (now, data) :: frames =>
      let deed := (Session.react connection.room now data).deed connection
      match deed.room? with
      | some room => deed :: deeds { connection with room } frames
      | none => [deed]

theorem Connection.deeds_cons (connection : Connection) (now : Timestamp) (data : Bytes)
    (frames : List (Timestamp × Bytes)) :
    connection.deeds ((now, data) :: frames) =
      let deed := (Session.react connection.room now data).deed connection
      deed :: match deed.room? with
        | some room => deeds { connection with room } frames
        | none => [] := by
  rw [deeds]
  dsimp only
  split <;> rfl

section Reactions

/-! ## Reactions are what is due -/

variable {connection : Connection} {now : Timestamp} {data : Bytes} {deed : Deed}

theorem Due.eq_react (due : Due connection.client connection.room now data deed) :
    deed = (Session.react connection.room now data).deed connection := by
  cases due with
  | unreadable read => rw [Session.react, read]; rfl
  | @misfit frame read type misfit =>
      have no : frame.message? = none := by
        cases found : frame.message? with
        | none => rfl
        | some m => exact absurd (Frame.message?_eq_some_iff.mp found).1 misfit
      rcases type with type | type
      · rw [Session.react, read]
        simp only [Frame.kind_message_iff.mpr type, no]
        rfl
      · rw [Session.react, read]
        simp only [Frame.kind_join_iff.mpr type, no]
        rfl
  | @relay frame read type =>
      have other : frame.kind = .other := by
        cases kind : frame.kind with
        | message => exact absurd (.inl (Frame.kind_message_iff.mp kind)) type
        | join => exact absurd (.inr (Frame.kind_join_iff.mp kind)) type
        | other => rfl
      rw [Session.react, read]
      simp only [other]
      rfl
  | say read type fits =>
      have is := Frame.message?_eq_some_iff.mpr ⟨fits, rfl⟩
      rw [Session.react, read]
      simp only [Frame.kind_message_iff.mpr type, is]
      rfl
  | @move frame target read type fits named real =>
      have is := Frame.message?_eq_some_iff.mpr ⟨fits, rfl⟩
      have target : frame.spoken.targetRoom = some target :=
        Option.filter_eq_some_iff.mpr ⟨named, by simpa using real⟩
      rw [Session.react, read]
      simp only [Frame.kind_join_iff.mpr type, is, target]
      rfl
  | @stay frame read type fits unnamed =>
      have is := Frame.message?_eq_some_iff.mpr ⟨fits, rfl⟩
      have target : frame.spoken.targetRoom = none := by
        refine Option.filter_eq_none_iff.mpr fun target named => ?_
        simpa using unnamed target named
      rw [Session.react, read]
      simp only [Frame.kind_join_iff.mpr type, is, target]
      rfl

theorem due_react (connection : Connection) (sound : now.Sound) (data : Bytes) :
    Due connection.client connection.room now data
      ((Session.react connection.room now data).deed connection) := by
  obtain ⟨deed, due⟩ : ∃ deed, Due connection.client connection.room now data deed := by
    cases read : Frame.decode data with
    | error fault => exact ⟨_, .unreadable read⟩
    | ok frame =>
        by_cases type : frame.IsOf "message" ∨ frame.IsOf "join"
        · by_cases fits : frame.Fits
          · rcases type with type | type
            · have time := (Frame.pinned_fits read fits sound connection.room).time _ rfl
              have back := Timestamp.parse?_format time
              rw [← String.toList_ofList (l := Timestamp.format _)] at back
              exact ⟨_, .say read type fits rfl back
                (Frame.decode_pinned read fits ⟨_, type⟩ sound connection.room)⟩
            · by_cases named : ∃ target, frame.text? "room" = some target ∧ target ≠ ""
              · obtain ⟨target, named, real⟩ := named
                exact ⟨_, .move read type fits named real⟩
              · refine ⟨_, .stay read type fits fun target is => ?_⟩
                exact Decidable.byContradiction fun real => named ⟨target, is, real⟩
          · exact ⟨_, .misfit read type fits⟩
        · exact ⟨_, .relay read type⟩
  rw [← due.eq_react]
  exact due

theorem translation_deeds (connection : Connection) {frames : List (Timestamp × Bytes)}
    (sound : ∀ frame ∈ frames, frame.1.Sound) :
    Translation connection.client connection.room frames (connection.deeds frames) := by
  induction frames generalizing connection with
  | nil => exact .done
  | cons frame frames ih =>
      obtain ⟨now, data⟩ := frame
      obtain ⟨here, later⟩ := List.forall_mem_cons.mp sound
      have due := due_react connection here data
      unfold Connection.deeds
      dsimp only
      split
      · next room goes => exact .next due goes (ih { connection with room } later)
      · next closed => exact .last due closed

/-- Nothing else is due. -/
theorem Translation.eq_deeds {frames : List (Timestamp × Bytes)} {deeds : List Deed}
    (translation : Translation connection.client connection.room frames deeds) :
    deeds = connection.deeds frames := by
  induction frames generalizing connection deeds with
  | nil =>
      cases translation
      rfl
  | cons frame frames ih =>
      cases translation with
      | last due closed =>
          rw [due.eq_react] at closed ⊢
          simp only [Connection.deeds, closed]
      | @next _ after _ _ _ _ _ due goes rest =>
          rw [due.eq_react] at goes ⊢
          simp only [Connection.deeds, goes]
          have later : Translation ({ connection with room := after } : Connection).client
              ({ connection with room := after } : Connection).room _ _ := rest
          exact congrArg _ (ih later)

end Reactions

end ChatRelay
