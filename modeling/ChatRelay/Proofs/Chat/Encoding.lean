import ChatRelay.Chat.Frame
import ChatRelay.Proofs.Json.Values
import ChatRelay.Proofs.Time.Timestamp

/-! # Chat messages come back

A message that was read can be stamped and written again, and both readers then read what was
written as the message that it is.
-/

namespace ChatRelay

namespace Message

open Json

/-- What is read as a message: its further fields have none of the known names, their names ascend,
    and its values are such as are read. -/
structure Fits (m : Message) : Prop where
  unknown : ∀ field ∈ m.extra, field.1 ∉ knownNames
  ascending : Fields.Ascending m.extra
  values : ∀ field ∈ m.extra, field.2.Fits (maxDepth - 1)
  time : ∀ t, m.timestamp = some t → t.Sound

/-- One of the two readers reads the message from the bytes. -/
def IsReadFrom (m : Message) (data : Bytes) : Prop :=
  decode data = .ok m ∨ ∃ frame, Frame.decode data = .ok frame ∧ frame.message? = some m

/-- The numbers of a message that are no integers. -/
def reals (m : Message) : List Binary64 := realsOfFields m.extra

/-- The message with stamps put on it one after the other. -/
def stamped (m : Message) (stamps : List (String × Timestamp)) : Message :=
  stamps.foldl (fun m (room, now) => m.stamp room now) m

section Stamps

/-! ## Stamps -/

variable {m : Message}

theorem Fits.stamp (fits : m.Fits) {now : Timestamp} (sound : now.Sound) (room : String) :
    (m.stamp room now).Fits where
  unknown := fits.unknown
  ascending := fits.ascending
  values := fits.values
  time t is := by
    cases was : m.timestamp with
    | none =>
        simp only [Message.stamp, was, Option.getD_none, Option.some.injEq] at is
        exact is ▸ sound
    | some given =>
        simp only [Message.stamp, was, Option.getD_some, Option.some.injEq] at is
        exact is ▸ fits.time given was

theorem Fits.stamped (fits : m.Fits) {stamps : List (String × Timestamp)}
    (sound : ∀ stamp ∈ stamps, stamp.2.Sound) : (m.stamped stamps).Fits := by
  induction stamps generalizing m with
  | nil => exact fits
  | cons stamp stamps ih =>
      obtain ⟨here, later⟩ := List.forall_mem_cons.mp sound
      exact ih (fits.stamp here stamp.1) later

theorem extra_stamped (m : Message) (stamps : List (String × Timestamp)) :
    (m.stamped stamps).extra = m.extra ∧ (m.stamped stamps).kind = m.kind := by
  induction stamps generalizing m with
  | nil => exact ⟨rfl, rfl⟩
  | cons stamp stamps ih => exact ih (m.stamp stamp.1 stamp.2)

/-- The last stamp gives the room, and the first one the time unless the client has given it. -/
theorem stamped_cons (m : Message) (first : String × Timestamp)
    (stamps : List (String × Timestamp)) :
    (m.stamped (first :: stamps)).room =
        some ((first :: stamps).getLast (List.cons_ne_nil first stamps)).1 ∧
      (m.stamped (first :: stamps)).timestamp = some (m.timestamp.getD first.2) := by
  induction stamps generalizing m first with
  | nil => exact ⟨rfl, rfl⟩
  | cons second stamps ih =>
      obtain ⟨room, time⟩ := ih (m.stamp first.1 first.2) second
      rw [List.getLast_cons_cons]
      exact ⟨room, time⟩

end Stamps

section Reading

/-! ## Messages that are read fit -/

variable {data rest : Bytes} {m : Message}

/-- What has been read of a message fits. -/
structure Draft.Fits (d : Draft) : Prop where
  unknown : ∀ field ∈ d.extra, field.1 ∉ knownNames
  ascending : Fields.Ascending d.extra
  values : ∀ field ∈ d.extra, field.2.Fits (maxDepth - 1)
  time : ∀ t, d.timestamp = some (some t) → t.Sound

theorem Draft.Fits.finish {d : Draft} (fits : d.Fits) : d.finish.Fits where
  unknown := fits.unknown
  ascending := fits.ascending
  values := fits.values
  time t is := by
    refine fits.time t ?_
    cases was : d.timestamp with
    | none => simp [Draft.finish, was] at is
    | some given => simpa [Draft.finish, was] using is

theorem sound_of_readTimestamp {t : Timestamp} (read : readTimestamp data = .ok (t, rest)) :
    t.Sound := by
  obtain ⟨⟨text, left⟩, -, read⟩ := of_bind read
  simp only at read
  split at read
  · next parsed =>
      cases read
      exact Timestamp.sound_of_parse? parsed
  · cases read

theorem of_orNull {α : Type} {read : Reader α} {x : α}
    (done : orNull read data = .ok (some x, rest)) :
    ∃ data left, read data = .ok (x, left) := by
  unfold orNull at done
  split at done
  · obtain ⟨_, -, same⟩ := of_bind done
    cases same
  · obtain ⟨⟨y, left⟩, read, same⟩ := of_bind done
    cases same
    exact ⟨_, _, read⟩

theorem of_once {α : Type} {seen : Option α} {read : Reader α} {x : α}
    (done : once seen read data = .ok (x, rest)) : ∃ data, read data = .ok (x, rest) := by
  unfold once at done
  split at done
  · cases done
  · obtain ⟨⟨_, left⟩, -, read⟩ := of_bind done
    exact ⟨left, read⟩

/-- A name that is none of the known ones. -/
theorem readField_unknown {name : String} (unknown : name ∉ knownNames) (d : Draft) :
    readField name d data = (keepField (maxDepth - 1) name d.extra data).map fun (extra, rest) =>
      ({ d with extra }, rest) := by
  have apart {known : String} (member : known ∈ knownNames) : name ≠ known := fun same =>
    unknown (same ▸ member)
  unfold readField
  split
  · exact absurd rfl (apart (by decide))
  · exact absurd rfl (apart (by decide))
  · exact absurd rfl (apart (by decide))
  · exact absurd rfl (apart (by decide))
  · exact absurd rfl (apart (by decide))
  · unfold keepField
    cases colon data with
    | error fault => rfl
    | ok left =>
        simp only [bind, Except.bind]
        cases value (maxDepth - 1) left.2 <;> rfl

theorem Draft.Fits.readField {d next : Draft} (fits : d.Fits) {name : String}
    (read : readField name d data = .ok (next, rest)) : next.Fits := by
  by_cases unknown : name ∉ knownNames
  · rw [readField_unknown unknown] at read
    cases kept : keepField (maxDepth - 1) name d.extra data with
    | error fault =>
        rw [kept] at read
        cases read
    | ok outcome =>
        rw [kept] at read
        cases read
        obtain ⟨⟨_, left⟩, -, kept⟩ := of_bind kept
        obtain ⟨⟨v, left⟩, one, kept⟩ := of_bind kept
        cases kept
        refine ⟨fun field member => ?_, fits.ascending.insert name v, fun field member => ?_,
          fits.time⟩
        · rcases Fields.mem_of_mem_insert member with rfl | member
          · exact unknown
          · exact fits.unknown field member
        · rcases Fields.mem_of_mem_insert member with rfl | member
          · exact fits_value one
          · exact fits.values field member
  · unfold Message.readField at read
    split at read
    case h_5 =>
      obtain ⟨⟨x, left⟩, one, read⟩ := of_bind read
      cases read
      refine ⟨fits.unknown, fits.ascending, fits.values, fun t is => ?_⟩
      cases is
      obtain ⟨_, one⟩ := of_once one
      obtain ⟨_, _, one⟩ := of_orNull one
      exact sound_of_readTimestamp one
    case h_6 type room content sender timestamp =>
      refine absurd ?_ unknown
      simp only [knownNames, List.mem_cons, List.not_mem_nil, or_false, not_or]
      exact ⟨type, room, content, sender, timestamp⟩
    all_goals
      obtain ⟨⟨x, left⟩, -, read⟩ := of_bind read
      cases read
      exact ⟨fits.unknown, fits.ascending, fits.values, fits.time⟩

theorem of_document {α : Type} {read : Reader α} {x : α} (done : document read data = .ok x) :
    ∃ rest, read data = .ok (x, rest) := by
  obtain ⟨⟨y, left⟩, read, done⟩ := of_bind done
  simp only at done
  split at done
  · cases done
    exact ⟨left, read⟩
  · cases done

theorem fits_of_decode (read : decode data = .ok m) : m.Fits := by
  obtain ⟨rest, read⟩ := of_document read
  unfold Message.read at read
  split at read
  · obtain ⟨⟨d, left⟩, all, read⟩ := of_bind read
    cases read
    have start : Draft.Fits {} := ⟨nofun, .nil, nofun, nofun⟩
    exact (of_fields Draft.Fits (fun fits one => fits.readField one) start all).finish
  · exact absurd read refuse_ne_ok

/-- An object that is read has ascending names and values that fit. -/
theorem fits_of_object {frame : Frame} (read : Frame.decode data = .ok frame) :
    Fields.Ascending frame.fields ∧ ∀ field ∈ frame.fields, field.2.Fits (maxDepth - 1) := by
  unfold Frame.decode at read
  cases outcome : document Frame.readObject data with
  | error fault =>
      rw [outcome] at read
      cases read
  | ok fields =>
      rw [outcome] at read
      cases read
      obtain ⟨rest, inner⟩ := of_document outcome
      unfold Frame.readObject at inner
      split at inner
      · obtain ⟨⟨v, left⟩, one, inner⟩ := of_bind inner
        have fits := fits_value one
        simp only at inner
        split at inner
        · cases inner
          exact fits
        · cases inner
      · exact absurd inner refuse_ne_ok

theorem fits_of_message? {frame : Frame} (read : Frame.decode data = .ok frame)
    (is : frame.message? = some m) : m.Fits := by
  obtain ⟨ascending, values⟩ := fits_of_object read
  unfold Frame.message? ofFields? at is
  simp only [Option.bind_eq_bind, Option.bind_eq_some_iff] at is
  obtain ⟨kind, -, room, -, content, -, sender, -, timestamp, time, same⟩ := is
  cases same
  refine ⟨fun field member => ?_, ascending.filter _, fun field member => ?_, fun t is => ?_⟩
  · simpa using (List.mem_filter.mp member).2
  · exact values field (List.mem_filter.mp member).1
  · cases is
    unfold timestampField? at time
    simp only [Option.bind_eq_bind, Option.bind_eq_some_iff] at time
    obtain ⟨given, -, time⟩ := time
    cases given with
    | none => cases time
    | some text =>
        simp only [Option.bind_eq_some_iff] at time
        obtain ⟨t', parsed, same⟩ := time
        cases same
        exact Timestamp.sound_of_parse? parsed

end Reading

section Object

/-! ## The object of a message -/

theorem get?_optionalField (name : String) (text : Option String) (key : String) :
    Fields.get? key (optionalField name text) =
      if name = key then text.map Value.string else none := by
  cases text with
  | none => simp [optionalField]
  | some text => simp [optionalField, Fields.get?_cons]

theorem mem_toFields {m : Message} {field : String × Value} (member : field ∈ m.toFields) :
    (∃ text, field.2 = .string text) ∨ field ∈ m.extra := by
  have optional {name : String} {text : Option String} {field : String × Value}
      (member : field ∈ optionalField name text) : ∃ text, field.2 = .string text := by
    cases text with
    | none => cases member
    | some text => exact ⟨text, by rw [List.mem_singleton.mp member]⟩
  simp only [toFields, List.mem_append, List.mem_cons] at member
  rcases member with (((((rfl | room) | content) | sender) | timestamp) | extra)
  · exact .inl ⟨_, rfl⟩
  · exact .inl (optional room)
  · exact .inl (optional content)
  · exact .inl (optional sender)
  · exact .inl (optional timestamp)
  · exact .inr extra

variable {m : Message}

/-- The fields that come before the further ones. -/
theorem known_sublist (kind : String) (room content sender timestamp : Option String) :
    List.Sublist ((("type", Value.string kind) :: optionalField "room" room ++
      optionalField "content" content ++ optionalField "sender" sender ++
      optionalField "timestamp" timestamp).map Prod.fst) knownNames := by
  cases room <;> cases content <;> cases sender <;> cases timestamp <;>
    simp only [optionalField, List.append_nil, List.cons_append, List.nil_append, List.map_cons,
      List.map_nil] <;> decide

/-- Every name is written once. -/
theorem Fits.nodup (fits : m.Fits) : (m.toFields.map Prod.fst).Nodup := by
  have known := known_sublist m.kind m.room m.content m.sender (m.timestamp.map Timestamp.text)
  have distinct : knownNames.Nodup := by decide
  rw [toFields, List.map_append]
  refine List.nodup_append.mpr ⟨distinct.sublist known, fits.ascending.nodup, ?_⟩
  rintro name early _ late rfl
  obtain ⟨field, member, same⟩ := List.mem_map.mp late
  exact fits.unknown field member (same ▸ known.subset early)

/-- What a message has under a name. -/
def field? (m : Message) (name : String) : Option Value :=
  match name with
  | "type" => some (.string m.kind)
  | "room" => m.room.map .string
  | "content" => m.content.map .string
  | "sender" => m.sender.map .string
  | "timestamp" => m.timestamp.map fun t => .string t.text
  | name => m.extra.get? name

/-- The further fields have no known name. -/
theorem Fits.get?_known (fits : m.Fits) {name : String} (known : name ∈ knownNames) :
    m.extra.get? name = none :=
  Fields.get?_eq_none_iff.mpr fun field there same => fits.unknown field there (same ▸ known)

theorem field?_unknown {name : String} (unknown : name ∉ knownNames) :
    m.field? name = m.extra.get? name := by
  unfold field?
  split
  case h_6 => rfl
  all_goals exact absurd (by decide) unknown

theorem get?_toFields (fits : m.Fits) (name : String) :
    (Fields.ofList m.toFields).get? name = m.field? name := by
  have room : m.extra.get? "room" = none := fits.get?_known (by decide)
  have content : m.extra.get? "content" = none := fits.get?_known (by decide)
  have sender : m.extra.get? "sender" = none := fits.get?_known (by decide)
  have timestamp : m.extra.get? "timestamp" = none := fits.get?_known (by decide)
  rw [Fields.get?_ofList_of_nodup fits.nodup]
  unfold field?
  split
  case h_6 type room content sender timestamp =>
    simp [toFields, Fields.get?_append, get?_optionalField, Fields.get?_cons, Ne.symm type,
      Ne.symm room, Ne.symm content, Ne.symm sender, Ne.symm timestamp]
  all_goals
    simp [toFields, Fields.get?_append, get?_optionalField, Fields.get?_cons, room, content, sender,
      timestamp, Function.comp_def]

/-- The further fields are those with none of the known names. -/
theorem filter_toFields (fits : m.Fits) :
    (Fields.ofList m.toFields).filter (fun (name, _) => !knownNames.contains name) = m.extra := by
  apply ((Fields.ascending_ofList m.toFields).filter _).eq_of_get? fits.ascending
  intro name
  have kept := Fields.get?_filter (fun name => !knownNames.contains name)
    (Fields.ofList m.toFields) name
  rw [kept, get?_toFields fits]
  by_cases known : name ∈ knownNames
  · have listed : knownNames.contains name = true := List.contains_iff_mem.mpr known
    rw [listed, if_neg (by decide), fits.get?_known known]
  · have unlisted : knownNames.contains name = false :=
      Bool.eq_false_iff.mpr fun listed => known (List.contains_iff_mem.mp listed)
    rw [unlisted, if_pos (by decide), field?_unknown known]

/-- The object of a message is a message again, and the same. -/
theorem ofFields?_toFields (fits : m.Fits) : ofFields? (Fields.ofList m.toFields) = some m := by
  have text (name : String) (text : Option String)
      (found : m.field? name = text.map Value.string) :
      textField? name (Fields.ofList m.toFields) = some text := by
    rw [textField?, get?_toFields fits, found]
    cases text <;> rfl
  have kind : kindField? (Fields.ofList m.toFields) = some m.kind := by
    rw [kindField?, get?_toFields fits]
    rfl
  have time : timestampField? (Fields.ofList m.toFields) = some m.timestamp := by
    have found : m.field? "timestamp" = (m.timestamp.map Timestamp.text).map Value.string := by
      rw [Option.map_map]
      rfl
    rw [timestampField?, text _ _ found]
    cases given : m.timestamp with
    | none => rfl
    | some t =>
        have back : Timestamp.parse? t.text.toList = some t := by
          rw [Timestamp.text, String.toList_ofList, Timestamp.parse?_format (fits.time t given)]
        simp only [Option.map_some, Option.bind_eq_bind, Option.bind_some, back]
        rfl
  have extra := filter_toFields fits
  have room := text "room" m.room rfl
  have content := text "content" m.content rfl
  have sender := text "sender" m.sender rfl
  simp only [ofFields?, kind, room, content, sender, time, extra, Option.bind_eq_bind,
    Option.bind_some]
  rfl

end Object

section Writing

/-! ## A message that is written is read by both readers -/

variable {m : Message}

theorem reads_text (text : String) : Reads readText (print (.string text)) text := by
  intro rest _
  have quote : isBlank 0x22 = false := by decide
  rw [print, printString_append]
  simp only [readText, skipBlanks_cons quote]
  rw [string_printed]

theorem reads_timestamp {t : Timestamp} (sound : t.Sound) :
    Reads readTimestamp (print (.string t.text)) t := by
  intro rest stops
  have back : Timestamp.parse? t.text.toList = some t := by
    rw [Timestamp.text, String.toList_ofList, Timestamp.parse?_format sound]
  simp only [readTimestamp, reads_text t.text rest stops, bind, Except.bind, back]

theorem reads_orNull {α : Type} {read : Reader α} {text : String} {x : α}
    (reads : Reads read (print (.string text)) x) :
    Reads (orNull read) (print (.string text)) (some x) := by
  intro rest stops
  have read := reads rest stops
  rw [print, printString_append] at read ⊢
  rw [orNull, skipBlanks_cons (by decide)]
  change (Except.bind _ _) = _
  rw [read]
  rfl

theorem reads_once {α : Type} {read : Reader α} {text : Bytes} {x : α}
    (reads : Reads read text x) : Reads (once none read) (0x3A :: text) x := by
  intro rest stops
  rw [List.cons_append, once, colon, skipBlanks_cons (by decide)]
  exact reads rest stops

/-- An optional field is read into the place that it has in a draft. -/
theorem gathered_optional {α : Type} (name : String) (text : α → String) (put : Option α → Draft)
    (given : Option α)
    (reads : ∀ x, given = some x → Reads (readField name (put none))
      (0x3A :: print (.string (text x))) (put (some x))) :
    Gathered readField (put none) ((optionalField name (given.map text)).map shown) (put given) := by
  cases given with
  | none => exact .nil (put none)
  | some x => exact .cons (reads x rfl) (.nil (put (some x)))

/-- The draft of a message before its further fields are read. -/
def known (m : Message) : Draft where
  kind := some m.kind
  room := m.room.map some
  content := m.content.map some
  sender := m.sender.map some
  timestamp := m.timestamp.map some

/-- The known fields of a message are read into a draft. -/
theorem gathered_known (m : Message) (time : ∀ t, m.timestamp = some t → t.Sound) :
    Gathered readField {} ((("type", Value.string m.kind) :: optionalField "room" m.room ++
      optionalField "content" m.content ++ optionalField "sender" m.sender ++
      optionalField "timestamp" (m.timestamp.map Timestamp.text)).map shown) m.known := by
  have kind : Reads (readField "type" {}) (0x3A :: print (.string m.kind))
      { kind := some m.kind } := by
    intro rest stops
    have read := reads_once (reads_text m.kind) rest stops
    simp only [readField, read, bind, Except.bind]
  have text (x : String) := reads_once (reads_orNull (reads_text x))
  have room := gathered_optional "room" id
    (fun given => { kind := some m.kind, room := given.map some }) m.room
    (fun x _ rest stops => by
      simp only [readField, Option.map_none, id, text x rest stops, bind, Except.bind,
        Option.map_some])
  have content := gathered_optional "content" id
    (fun given => { kind := some m.kind, room := m.room.map some, content := given.map some })
    m.content
    (fun x _ rest stops => by
      simp only [readField, Option.map_none, id, text x rest stops, bind, Except.bind,
        Option.map_some])
  have sender := gathered_optional "sender" id
    (fun given => { kind := some m.kind, room := m.room.map some, content := m.content.map some,
                    sender := given.map some })
    m.sender
    (fun x _ rest stops => by
      simp only [readField, Option.map_none, id, text x rest stops, bind, Except.bind,
        Option.map_some])
  have timestamp := gathered_optional "timestamp" Timestamp.text
    (fun given => { kind := some m.kind, room := m.room.map some, content := m.content.map some,
                    sender := m.sender.map some, timestamp := given.map some })
    m.timestamp
    (fun t is rest stops => by
      have read := reads_once (reads_orNull (reads_timestamp (time t is))) rest stops
      simp only [readField, Option.map_none, read, bind, Except.bind, Option.map_some])
  simp only [Option.map_id] at room content sender
  simp only [List.map_append, List.map_cons, List.cons_append]
  exact .cons kind (((room.append content).append sender).append timestamp)

/-- The further fields of a message are read into a draft. -/
theorem gathered_extra {entries : List (String × Bytes)} (d : Draft) {extra last : Fields}
    (gathered : Gathered (keepField (maxDepth - 1)) extra entries last)
    (unknown : ∀ entry ∈ entries, entry.1 ∉ knownNames) :
    Gathered readField { d with extra } entries { d with extra := last } := by
  induction gathered with
  | nil acc => exact .nil _
  | cons reads _ ih =>
      obtain ⟨here, later⟩ := List.forall_mem_cons.mp unknown
      refine .cons (fun rest stops => ?_) (ih later)
      rw [readField_unknown here, reads rest stops]
      rfl

variable (fits : m.Fits) (back : ∀ x ∈ m.reals, ReadsBack x)
include fits back

theorem reads_extra :
    ∀ field ∈ m.extra, Reads (value (maxDepth - 1)) (print field.2) field.2 := by
  intro field member
  refine (value_print (fits.values field member) fun x real => back x ?_).2
  rw [reals, realsOfFields_eq]
  exact List.mem_flatMap.mpr ⟨field, member, real⟩

/-- A message that is written is read from its bytes. -/
theorem decode_encode : decode m.encode = .ok m := by
  have kept := gathered_keepField (reads_extra fits back) []
  have unknown : ∀ entry ∈ m.extra.map shown, entry.1 ∉ knownNames := by
    intro entry member
    obtain ⟨field, there, rfl⟩ := List.mem_map.mp member
    exact fits.unknown field there
  have last := Fields.ofList_of_ascending fits.ascending
  rw [Fields.ofList] at last
  have gathered : Gathered readField {} (m.toFields.map shown)
      { m.known with extra := m.extra } := by
    rw [last] at kept
    rw [toFields, List.map_append]
    exact (gathered_known m fits.time).append (gathered_extra m.known kept unknown)
  have read := fields_print gathered []
  have whole := print_object m.toFields []
  rw [List.append_nil] at whole
  rw [decode, document, Message.read, encode, whole, skipBlanks_cons (by decide)]
  simp only [read, bind, Except.bind]
  have finished : Draft.finish { m.known with extra := m.extra } = m := by
    obtain ⟨kind, room, content, sender, timestamp, extra⟩ := m
    cases room <;> cases content <;> cases sender <;> cases timestamp <;> rfl
  rw [finished]
  rfl

/-- A message that is written is read as the object of its fields. -/
theorem frame_decode_encode : Frame.decode m.encode = .ok ⟨Fields.ofList m.toFields⟩ := by
  have each : ∀ field ∈ m.toFields, Reads (value (maxDepth - 1)) (print field.2) field.2 := by
    intro field member
    rcases mem_toFields member with ⟨text, string⟩ | extra
    · rw [string]
      refine (value_print (Value.fits_string _ text) fun x real => ?_).2
      rw [Value.reals.eq_def] at real
      cases real
    · exact reads_extra fits back field extra
  have read := value_object each [] .nil
  have whole := print_object m.toFields []
  have depth : maxDepth - 1 + 1 = maxDepth := rfl
  rw [List.append_nil] at whole read
  rw [whole, depth] at read
  rw [Frame.decode, document, Frame.readObject, encode, whole, skipBlanks_cons (by decide)]
  simp only [read, bind, Except.bind]
  rfl

end Writing

theorem kind_ofList {m : Message} (fits : m.Fits) :
    Frame.kind ⟨Fields.ofList m.toFields⟩ = .ofType (some m.kind) := by
  rw [Frame.kind, get?_toFields fits]
  rfl

theorem kind_of_message? {frame : Frame} {m : Message} (is : frame.message? = some m) :
    frame.kind = .ofType (some m.kind) := by
  unfold Frame.message? ofFields? at is
  simp only [Option.bind_eq_bind, Option.bind_eq_some_iff] at is
  obtain ⟨kind, found, _, -, _, -, _, -, _, -, same⟩ := is
  cases same
  unfold kindField? at found
  unfold Frame.kind
  split at found
  · next none =>
      cases found
      rw [none]
      rfl
  · next text some =>
      cases found
      rw [some]
  · cases found

theorem IsReadFrom.fits {m : Message} {data : Bytes} (accepted : m.IsReadFrom data) : m.Fits := by
  rcases accepted with read | ⟨frame, read, is⟩
  · exact fits_of_decode read
  · exact fits_of_message? read is

/-- A message that was read and then stamped any number of times is written with every name once,
    and both readers read what is written as this message. The last stamp gives the room, and the
    first one the time unless the client has given it. Numbers that are no integers have to be such
    as are read from their own shortest text. -/
theorem messages_survive_reencoding {data : Bytes} {m : Message} (accepted : m.IsReadFrom data)
    {stamps : List (String × Timestamp)} (representable : ∀ stamp ∈ stamps, stamp.2.Sound)
    (back : ∀ x ∈ m.reals, ReadsBack x) :
    let sent := m.stamped stamps
    (∀ field ∈ sent.extra, field.1 ∉ knownNames) ∧
    (sent.toFields.map Prod.fst).Nodup ∧
    decode sent.encode = .ok sent ∧
    (∃ frame, Frame.decode sent.encode = .ok frame ∧ frame.message? = some sent ∧
      frame.kind = .ofType (some sent.kind)) ∧
    (∀ again, again.IsReadFrom sent.encode → again = sent) ∧
    (∀ frame, Frame.decode data = .ok frame → frame.message? = some m →
      frame.kind = .ofType (some sent.kind)) ∧
    ∀ first later, stamps = first :: later →
      sent.room = some ((first :: later).getLast (List.cons_ne_nil first later)).1 ∧
        sent.timestamp = some (m.timestamp.getD first.2) := by
  intro sent
  have fits : sent.Fits := accepted.fits.stamped representable
  obtain ⟨extra, kind⟩ := extra_stamped m stamps
  have back : ∀ x ∈ sent.reals, ReadsBack x := by
    rwa [reals, extra]
  have direct := decode_encode fits back
  have object := frame_decode_encode fits back
  refine ⟨fits.unknown, fits.nodup, direct, ⟨_, object, ofFields?_toFields fits, kind_ofList fits⟩,
    ?_, ?_, ?_⟩
  · rintro again (read | ⟨frame, read, is⟩)
    · exact Except.ok.inj (read.symm.trans direct)
    · cases read.symm.trans object
      exact Option.some.inj (is.symm.trans (ofFields?_toFields fits))
  · intro frame _ is
    rw [kind]
    exact kind_of_message? is
  · rintro first later rfl
    exact stamped_cons m first later

/-- A message with a leap second, an escape, a null and a fraction is stamped twice. -/
theorem messages_survive_reencoding_stamped :
    let data := Utf8.ofString
      "\x7b\"content\":null,\"timestamp\":\"2016-12-31T23:59:60Z\",\"x\":[1.5,\"\\u000a\"]\x7d"
    let stamps : List (String × Timestamp) := [("A", ⟨19000, 5, 6⟩), ("B", ⟨20000, 7, 8⟩)]
    ∃ m, decode data = .ok m ∧ decode (m.stamped stamps).encode = .ok (m.stamped stamps) ∧
      (m.stamped stamps).room = some "B" ∧
      (m.stamped stamps).timestamp = some ⟨17166, 86399, 1000000000⟩ := by
  intro data stamps
  have sound : ∀ stamp ∈ stamps, stamp.2.Sound := by
    intro stamp member
    simp only [stamps, List.mem_cons, List.not_mem_nil, or_false] at member
    rcases member with rfl | rfl <;> constructor <;> decide
  have told : ((decode data).toOption.map fun m => (decide (∀ x ∈ m.reals, ReadsBack x),
      m.timestamp)) = some (true, some ⟨17166, 86399, 1000000000⟩) := by
    decide +kernel
  cases read : decode data with
  | error fault =>
      rw [read] at told
      cases told
  | ok m =>
      rw [read] at told
      simp only [Except.toOption, Option.map_some, Option.some.injEq, Prod.mk.injEq,
        decide_eq_true_eq] at told
      obtain ⟨back, time⟩ := told
      obtain ⟨-, -, again, -, -, -, stamps⟩ := messages_survive_reencoding (.inl read) sound back
      obtain ⟨room, timestamp⟩ := stamps _ _ rfl
      refine ⟨m, rfl, again, room, ?_⟩
      rw [timestamp, time]
      rfl

end Message
end ChatRelay
