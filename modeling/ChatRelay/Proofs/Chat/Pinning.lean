import ChatRelay.Proofs.Chat.Encoding

/-! # Frames pinned to a room

What a frame has to have under the known names to be a chat message, and what others read when the
message is passed on: the object of the frame, but for room and time, and without a sender or a text
that was null.
-/

namespace ChatRelay

namespace Frame

open Json Message

/-- The frame says of itself that it is of a type. -/
def IsOf (frame : Frame) (type : String) : Prop := frame.fields.get? "type" = some (.string type)

/-- The text under a name. -/
def text? (frame : Frame) (name : String) : Option String :=
  match frame.fields.get? name with
  | some (.string text) => some text
  | _ => none

def time? (frame : Frame) : Option Timestamp :=
  (frame.text? "timestamp").bind fun text => Timestamp.parse? text.toList

/-- The fields of the frame have the shapes that those of a chat message have. -/
structure Fits (frame : Frame) : Prop where
  type : ∀ value, frame.fields.get? "type" = some value → ∃ text, value = .string text
  texts : ∀ name ∈ ["room", "content", "sender", "timestamp"],
    ∀ value, frame.fields.get? name = some value → value = .null ∨ ∃ text, value = .string text
  time : ∀ text, frame.text? "timestamp" = some text → ∃ t, Timestamp.parse? text.toList = some t

/-- The chat message in a frame. -/
def spoken (frame : Frame) : Message where
  kind := (frame.text? "type").getD ""
  room := frame.text? "room"
  content := frame.text? "content"
  sender := frame.text? "sender"
  timestamp := frame.time?
  extra := frame.fields.filter fun (name, _) => !knownNames.contains name

/-- The message of a frame that arrives at `now` in a session that is in `room`. -/
def pinned (frame : Frame) (room : String) (now : Timestamp) : Message :=
  { frame.spoken with room := some room, timestamp := some (frame.time?.getD now) }

/-- Whether a field is no sender or text that is null. -/
def stated : String × Value → Bool
  | ("sender", .null) | ("content", .null) => false
  | _ => true

/-- The object of a frame with a room and a time, and without a sender or a text that is null. -/
def objectAt (frame : Frame) (room : String) (time : Timestamp) : Fields :=
  (Fields.insert "room" (.string room) (frame.fields.filter stated)).insert "timestamp"
    (.string time.text)

section Shapes

/-! ## Frames that are chat messages -/

variable {frame : Frame} {name text : String} {m : Message}

theorem text?_eq_some_iff : frame.text? name = some text ↔
    frame.fields.get? name = some (.string text) := by
  unfold text?
  split
  · next found => simp [found]
  · next other =>
      exact ⟨nofun, fun found => absurd found (other text)⟩

theorem kind_message_iff : frame.kind = .message ↔ frame.IsOf "message" := by
  unfold kind IsOf MessageKind.ofType
  split
  · next found => rw [found]; split <;> simp_all
  · next other => exact ⟨nofun, fun found => absurd found (other _)⟩

theorem kind_join_iff : frame.kind = .join ↔ frame.IsOf "join" := by
  unfold kind IsOf MessageKind.ofType
  split
  · next found => rw [found]; split <;> simp_all
  · next other => exact ⟨nofun, fun found => absurd found (other _)⟩

theorem textField?_eq_some_iff {text? : Option String} :
    textField? name frame.fields = some text? ↔ frame.text? name = text? ∧
      ∀ value, frame.fields.get? name = some value →
        value = .null ∨ ∃ text, value = .string text := by
  unfold textField? Frame.text?
  split <;> simp_all

theorem kindField?_eq_some_iff {kind : String} :
    kindField? frame.fields = some kind ↔ (frame.text? "type").getD "" = kind ∧
      ∀ value, frame.fields.get? "type" = some value → ∃ text, value = .string text := by
  unfold kindField? text?
  split <;> simp_all

/-- A frame whose fields have the right shapes is a chat message, and no other is. -/
theorem message?_eq_some_iff : frame.message? = some m ↔ frame.Fits ∧ frame.spoken = m := by
  have time {given : Option Timestamp} :
      timestampField? frame.fields = some given ↔
        (∀ value, frame.fields.get? "timestamp" = some value →
          value = .null ∨ ∃ text, value = .string text) ∧
        (∀ text, frame.text? "timestamp" = some text →
          ∃ t, Timestamp.parse? text.toList = some t) ∧ frame.time? = given := by
    unfold timestampField? time?
    simp only [Option.bind_eq_bind, Option.bind_eq_some_iff, textField?_eq_some_iff]
    constructor
    · rintro ⟨_, ⟨rfl, shape⟩, parsed⟩
      refine ⟨shape, ?_⟩
      split at parsed
      · next none =>
          rw [none]
          refine ⟨fun text said => ?_, Option.some.inj parsed⟩
          cases said
      · next text said =>
          obtain ⟨t, parsed, same⟩ := Option.bind_eq_some_iff.mp parsed
          rw [said]
          refine ⟨?_, parsed.trans (Option.some.inj same)⟩
          rintro _ ⟨⟩
          exact ⟨t, parsed⟩
    · rintro ⟨shape, parses, same⟩
      refine ⟨_, ⟨rfl, shape⟩, ?_⟩
      split
      · next none =>
          rw [none] at same
          exact congrArg some same
      · next text said =>
          obtain ⟨t, parsed⟩ := parses text said
          rw [said] at same
          refine Option.bind_eq_some_iff.mpr ⟨t, parsed, ?_⟩
          exact congrArg some (parsed.symm.trans same)
  simp only [message?, ofFields?, Option.bind_eq_bind, Option.bind_eq_some_iff,
    kindField?_eq_some_iff, textField?_eq_some_iff, time]
  constructor
  · rintro ⟨_, ⟨rfl, type⟩, _, ⟨rfl, room⟩, _, ⟨rfl, content⟩, _, ⟨rfl, sender⟩, _,
      ⟨timestamp, parsed, rfl⟩, same⟩
    refine ⟨⟨type, ?_, parsed⟩, Option.some.inj same⟩
    rw [List.forall_mem_cons, List.forall_mem_cons, List.forall_mem_cons]
    exact ⟨room, content, sender, List.forall_mem_singleton.mpr timestamp⟩
  · rintro ⟨fits, rfl⟩
    have text {name : String} (known : name ∈ ["room", "content", "sender", "timestamp"]) :=
      fits.texts name known
    exact ⟨_, ⟨rfl, fits.type⟩, _, ⟨rfl, text (by decide)⟩, _, ⟨rfl, text (by decide)⟩, _,
      ⟨rfl, text (by decide)⟩, _, ⟨text (by decide), fits.time, rfl⟩, rfl⟩

end Shapes

section Passing

/-! ## What others read -/

variable {frame : Frame} {name : String} {data : Bytes} {now : Timestamp}

theorem pinned_fits (read : Frame.decode data = .ok frame) (fits : frame.Fits) (sound : now.Sound)
    (room : String) : (frame.pinned room now).Fits :=
  (fits_of_message? read (message?_eq_some_iff.mpr ⟨fits, rfl⟩)).stamp sound room

/-- A text that is null is left out. -/
theorem get?_stated (fits : frame.Fits) (known : name = "content" ∨ name = "sender") :
    (frame.fields.get? name).filter (fun value => stated (name, value)) =
      (frame.text? name).map .string := by
  have among : name ∈ ["room", "content", "sender", "timestamp"] := by
    rcases known with rfl | rfl <;> decide
  cases found : frame.fields.get? name with
  | none => rw [text?, found]; rfl
  | some value =>
      rw [text?, found, Option.filter_some]
      rcases fits.texts name among value found with rfl | ⟨text, rfl⟩
      · rcases known with rfl | rfl <;> rfl
      · rcases known with rfl | rfl <;> rfl

theorem stated_other (content : name ≠ "content") (sender : name ≠ "sender") (value : Value) :
    stated (name, value) = true := by
  unfold stated
  split
  · next same => exact absurd (congrArg Prod.fst same) sender
  · next same => exact absurd (congrArg Prod.fst same) content
  · rfl

/-- The object of a message that is pinned is that of its frame at the room and the time. -/
theorem ofList_pinned (read : Frame.decode data = .ok frame) (fits : frame.Fits)
    (of : ∃ type, frame.IsOf type) (sound : now.Sound) (room : String) :
    Fields.ofList (frame.pinned room now).toFields =
      frame.objectAt room (frame.time?.getD now) := by
  obtain ⟨ascending, -⟩ := fits_of_object read
  -- Both ascend, so it is enough to look under each name.
  apply (Fields.ascending_ofList _).eq_of_get? (((ascending.filter _).insert _ _).insert _ _)
  intro name
  rw [get?_toFields (pinned_fits read fits sound room), Fields.get?_insert, Fields.get?_insert,
    Fields.get?_filter_of_nodup ascending.nodup]
  unfold field?
  split
  case h_1 =>
      obtain ⟨type, found⟩ := of
      change some (Value.string ((frame.text? "type").getD "")) = _
      rw [text?_eq_some_iff.mpr found, found]
      rfl
  case h_2 => rfl
  case h_3 => exact (get?_stated fits (.inl rfl)).symm
  case h_4 => exact (get?_stated fits (.inr rfl)).symm
  case h_5 => rfl
  case h_6 type room content sender timestamp =>
      have unknown : knownNames.contains name = false := by
        simpa [knownNames] using ⟨type, room, content, sender, timestamp⟩
      rw [if_neg (Ne.symm timestamp), if_neg (Ne.symm room)]
      change Fields.get? name (frame.fields.filter fun (name, _) => !knownNames.contains name) = _
      have kept := Fields.get?_filter (fun name => !knownNames.contains name) frame.fields name
      rw [kept, unknown, if_pos (by decide)]
      cases Fields.get? name frame.fields with
      | none => rfl
      | some value => simp [Option.filter_some, stated_other content sender]

theorem decode_pinned (read : Frame.decode data = .ok frame) (fits : frame.Fits)
    (of : ∃ type, frame.IsOf type) (sound : now.Sound) (room : String)
    (back : ∀ x ∈ (frame.pinned room now).reals, ReadsBack x) :
    Frame.decode (frame.pinned room now).encode =
      .ok ⟨frame.objectAt room (frame.time?.getD now)⟩ := by
  rw [frame_decode_encode (pinned_fits read fits sound room) back,
    ofList_pinned read fits of sound]

end Passing

end Frame
end ChatRelay
