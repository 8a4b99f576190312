import ChatRelay.Proofs.Chat.Encoding
import ChatRelay.Proofs.Json.Entries
import Mathlib.Data.List.DropRight

/-! # Two readers of one message

A message is read straight from its bytes, or from the object of a frame. Both are told by the
entries of the object: the first reader adds one entry after the other to a draft and refuses a
known name that is there already, the second looks at the object that the entries come to.
-/

namespace ChatRelay

namespace Json

variable {depth : Nat} {data left rest : Bytes} {v : Value}

theorem value_of_quote (quote : skipBlanks data = 0x22 :: left) :
    value depth data = (string left).map fun (text, rest) => (.string text, rest) := by
  rw [value, quote]
  change (string left >>= _) = _
  cases string left <;> rfl

theorem value_of_null (null : skipBlanks data = 0x6E :: left) :
    value depth data = (word [0x75, 0x6C, 0x6C] left).map fun (_, rest) => (.null, rest) := by
  rw [value, null]
  change (word [0x75, 0x6C, 0x6C] left >>= _) = _
  cases word [0x75, 0x6C, 0x6C] left <;> rfl

theorem value_skipBlanks (depth : Nat) (data : Bytes) :
    value depth (skipBlanks data) = value depth data := by
  rw [value, value]
  simp only [skipBlanks, List.dropWhile_idempotent]

/-- Only a string begins with a quote, and only null with its letter. -/
theorem head_of_value (read : value depth data = .ok (v, rest)) :
    ((∃ text, v = .string text) → ∃ left, skipBlanks data = 0x22 :: left) ∧
      (v = .null → ∃ left, skipBlanks data = 0x6E :: left) := by
  rw [value] at read
  split at read
  · cases read
  next b left start =>
  split at read
  · next letter =>
      obtain ⟨_, -, read⟩ := of_bind read
      cases read
      exact ⟨by simp, fun _ => ⟨left, letter ▸ start⟩⟩
  split at read
  · obtain ⟨_, -, read⟩ := of_bind read
    cases read
    simp
  split at read
  · obtain ⟨_, -, read⟩ := of_bind read
    cases read
    simp
  split at read
  · obtain ⟨_, -, read⟩ := of_bind read
    cases read
    simp
  split at read
  · obtain ⟨_, -, read⟩ := of_bind read
    cases read
    simp
  split at read
  · next letter =>
      obtain ⟨_, -, read⟩ := of_bind read
      cases read
      exact ⟨fun _ => ⟨left, letter ▸ start⟩, by simp⟩
  split at read
  · cases depth with
    | zero => cases read
    | succ depth =>
        obtain ⟨_, -, read⟩ := of_bind read
        cases read
        simp
  split at read
  · cases depth with
    | zero => cases read
    | succ depth =>
        obtain ⟨_, -, read⟩ := of_bind read
        cases read
        simp
  · cases read

end Json

namespace Message

open Json

variable {α : Type} {data rest : Bytes}

section Shapes

/-! ## Shapes of values -/

def text? : Value → Option String
  | .string text => some text
  | _ => none

def time? (v : Value) : Option Timestamp := (text? v).bind fun text => Timestamp.parse? text.toList

/-- Null, or a value that has the shape. -/
def nullOr? (shape? : Value → Option α) : Value → Option (Option α)
  | .null => some none
  | v => (shape? v).map some

/-- The reader takes the values that have the shape. -/
def Accepts (read : Reader α) (shape? : Value → Option α) : Prop :=
  ∀ {data x rest}, read data = .ok (x, rest) ↔
    ∃ v, value (maxDepth - 1) data = .ok (v, rest) ∧ shape? v = some x

theorem readText_accepts : Accepts readText text? := by
  intro data x rest
  unfold readText
  split
  · next left quote =>
      rw [value_of_quote quote]
      cases string left with
      | error fault => exact ⟨nofun, fun ⟨_, read, _⟩ => nomatch read⟩
      | ok read =>
          constructor
          · intro same
            cases same
            exact ⟨.string x, rfl, rfl⟩
          · rintro ⟨v, same, shape⟩
            cases same
            cases shape
            rfl
  · next other =>
      refine ⟨fun read => absurd read refuse_ne_ok, ?_⟩
      rintro ⟨v, read, shape⟩
      cases v with
      | string text =>
          obtain ⟨left, quote⟩ := (head_of_value read).1 ⟨text, rfl⟩
          exact absurd quote (other left)
      | _ => cases shape

theorem readTimestamp_accepts : Accepts readTimestamp time? := by
  intro data x rest
  unfold readTimestamp
  rw [bind_eq_ok_iff]
  constructor
  · rintro ⟨⟨text, left⟩, read, parsed⟩
    simp only at parsed
    split at parsed
    · next parses =>
        cases parsed
        obtain ⟨v, read, shape⟩ := readText_accepts.mp read
        exact ⟨v, read, Option.bind_eq_some_iff.mpr ⟨text, shape, parses⟩⟩
    · cases parsed
  · rintro ⟨v, read, shape⟩
    obtain ⟨text, shape, parses⟩ := Option.bind_eq_some_iff.mp shape
    refine ⟨(text, rest), readText_accepts.mpr ⟨v, read, shape⟩, ?_⟩
    simp only [parses]

theorem Accepts.orNull {read : Reader α} {shape? : Value → Option α}
    (accepts : Accepts read shape?) : Accepts (Message.orNull read) (nullOr? shape?) := by
  intro data x rest
  unfold Message.orNull
  split
  · next left null =>
      rw [value_of_null null]
      cases word [0x75, 0x6C, 0x6C] left with
      | error fault => exact ⟨nofun, fun ⟨_, read, _⟩ => nomatch read⟩
      | ok read =>
          constructor
          · intro same
            cases same
            exact ⟨.null, rfl, rfl⟩
          · rintro ⟨v, same, shape⟩
            cases same
            cases shape
            rfl
  · next other =>
      have some {v : Value} (read : value (maxDepth - 1) data = .ok (v, rest)) :
          nullOr? shape? v = (shape? v).map some := by
        cases v with
        | null =>
            obtain ⟨left, null⟩ := (head_of_value read).2 rfl
            exact absurd null (other left)
        | _ => rfl
      have accepts {y : α} := @accepts (skipBlanks data) y rest
      rw [value_skipBlanks] at accepts
      rw [bind_eq_ok_iff]
      constructor
      · rintro ⟨⟨y, left⟩, read, same⟩
        cases same
        obtain ⟨v, read, shape⟩ := accepts.mp read
        exact ⟨v, read, by rw [some read, shape]; rfl⟩
      · rintro ⟨v, read, shape⟩
        rw [some read, Option.map_eq_some_iff] at shape
        obtain ⟨y, shape, rfl⟩ := shape
        exact ⟨(y, rest), accepts.mpr ⟨v, read, shape⟩, rfl⟩

end Shapes

section Drafts

/-! ## Drafts -/

/-- What is there after a field, unless something was there before. -/
def fresh? : (seen x : Option α) → Option (Option α)
  | none, some x => some (some x)
  | _, _ => none

/-- Add an entry to a draft. -/
def Draft.add? (d : Draft) : String × Value → Option Draft
  | ("type", v) => (fresh? d.kind (text? v)).map fun kind => { d with kind }
  | ("room", v) => (fresh? d.room (nullOr? text? v)).map fun room => { d with room }
  | ("content", v) => (fresh? d.content (nullOr? text? v)).map fun content => { d with content }
  | ("sender", v) => (fresh? d.sender (nullOr? text? v)).map fun sender => { d with sender }
  | ("timestamp", v) =>
      (fresh? d.timestamp (nullOr? time? v)).map fun timestamp => { d with timestamp }
  | (name, v) => some { d with extra := d.extra.insert name v }

theorem Draft.add?_unknown {name : String} (unknown : name ∉ knownNames) (d : Draft) (v : Value) :
    d.add? (name, v) = some { d with extra := d.extra.insert name v } := by
  simp only [knownNames, List.mem_cons, List.not_mem_nil, or_false, not_or] at unknown
  unfold Draft.add?
  split <;> simp_all

theorem once_eq_ok_iff {seen : Option α} {read : Reader α} {shape? : Value → Option α}
    (accepts : Accepts read shape?) {x : α} :
    once seen read data = .ok (x, rest) ↔
      ∃ v, entry (maxDepth - 1) data = .ok (v, rest) ∧ fresh? seen (shape? v) = some (some x) := by
  unfold once
  cases seen with
  | some y => exact ⟨nofun, fun ⟨_, _, same⟩ => nomatch same⟩
  | none =>
      simp only [entry, bind_eq_ok_iff]
      constructor
      · rintro ⟨left, colon, read⟩
        obtain ⟨v, read, shape⟩ := accepts.mp read
        exact ⟨v, ⟨left, colon, read⟩, by rw [shape]; rfl⟩
      · rintro ⟨v, ⟨left, colon, read⟩, fresh⟩
        cases shape : shape? v with
        | none => simp [fresh?, shape] at fresh
        | some y =>
            rw [shape] at fresh
            cases fresh
            exact ⟨left, colon, accepts.mpr ⟨v, read, shape⟩⟩

theorem readField_gathers : Gathers (maxDepth - 1) readField Draft.add? := by
  refine ⟨fun {name d data next rest} => ?_⟩
  -- A known name: the field is put where it belongs.
  have known {α : Type} {seen : Option α} {read : Reader α} {shape? : Value → Option α}
      (accepts : Accepts read shape?) (put : Option α → Draft)
      (added : ∀ v, d.add? (name, v) = (fresh? seen (shape? v)).map put) :
      (once seen read data >>= fun read => Except.ok (put (some read.1), read.2)) =
          .ok (next, rest) ↔
        ∃ v, entry (maxDepth - 1) data = .ok (v, rest) ∧ d.add? (name, v) = some next := by
    rw [bind_eq_ok_iff]
    simp only [added]
    constructor
    · rintro ⟨⟨x, left⟩, read, same⟩
      cases same
      obtain ⟨v, read, fresh⟩ := (once_eq_ok_iff accepts).mp read
      exact ⟨v, read, by rw [fresh]; rfl⟩
    · rintro ⟨v, read, added⟩
      obtain ⟨x?, fresh, same⟩ := Option.map_eq_some_iff.mp added
      obtain ⟨x, rfl⟩ : ∃ x, x? = some x := by
        unfold fresh? at fresh
        split at fresh <;> cases fresh
        exact ⟨_, rfl⟩
      exact ⟨(x, rest), (once_eq_ok_iff accepts).mpr ⟨v, read, fresh⟩, by rw [← same]⟩
  have nullable : Accepts (orNull readText) (nullOr? text?) := readText_accepts.orNull
  by_cases unknown : name ∉ knownNames
  · rw [readField_unknown unknown]
    simp only [Draft.add?_unknown unknown]
    cases kept : keepField (maxDepth - 1) name d.extra data with
    | error fault =>
        refine ⟨nofun, fun ⟨v, read, _⟩ => ?_⟩
        exact nomatch kept.symm.trans ((keepField_gathers _).field_eq_ok_iff.mpr ⟨v, read, rfl⟩)
    | ok outcome =>
        obtain ⟨extra, left⟩ := outcome
        obtain ⟨v, read, same⟩ := (keepField_gathers _).field_eq_ok_iff.mp kept
        cases same
        constructor
        · intro same
          cases same
          exact ⟨v, read, rfl⟩
        · rintro ⟨w, again, same⟩
          cases read.symm.trans again
          cases same
          rfl
  · simp only [knownNames, List.mem_cons, List.not_mem_nil, or_false, not_not] at unknown
    rcases unknown with rfl | rfl | rfl | rfl | rfl
    · exact known readText_accepts (fun kind => { d with kind }) fun _ => rfl
    · exact known nullable (fun room => { d with room }) fun _ => rfl
    · exact known nullable (fun content => { d with content }) fun _ => rfl
    · exact known nullable (fun sender => { d with sender }) fun _ => rfl
    · exact known readTimestamp_accepts.orNull (fun timestamp => { d with timestamp }) fun _ => rfl

/-- What a field leaves in the place of its name. -/
def slot? (shape? : Value → Option α) : Option Value → Option (Option α)
  | none => some none
  | some v => (shape? v).map some

/-- What is looked at in an object that is a message. -/
@[mk_iff]
structure Draft.Of (d : Draft) (fields : Fields) : Prop where
  kind : slot? text? (fields.get? "type") = some d.kind
  room : slot? (nullOr? text?) (fields.get? "room") = some d.room
  content : slot? (nullOr? text?) (fields.get? "content") = some d.content
  sender : slot? (nullOr? text?) (fields.get? "sender") = some d.sender
  timestamp : slot? (nullOr? time?) (fields.get? "timestamp") = some d.timestamp
  extra : fields.filter (fun (name, _) => !knownNames.contains name) = d.extra

theorem ofFields?_eq_some_iff {fields : Fields} {m : Message} :
    Message.ofFields? fields = some m ↔ ∃ d : Draft, d.Of fields ∧ d.finish = m := by
  have text (name : String) : textField? name fields =
      (slot? (nullOr? text?) (fields.get? name)).map Option.join := by
    unfold textField?
    split <;> simp_all [slot?, nullOr?, text?]
  have kind : kindField? fields = (slot? text? (fields.get? "type")).map (·.getD "") := by
    unfold kindField?
    split <;> simp_all [slot?, text?]
  have time : timestampField? fields =
      (slot? (nullOr? time?) (fields.get? "timestamp")).map Option.join := by
    unfold timestampField? textField?
    cases fields.get? "timestamp" with
    | none => rfl
    | some v =>
        cases v with
        | string text =>
            simp only [slot?, nullOr?, time?, text?, Option.bind_some, Option.bind_eq_bind]
            cases Timestamp.parse? text.toList <;> rfl
        | _ => rfl
  simp only [Message.ofFields?, kind, text, time, Option.bind_eq_bind, Option.bind_map,
    Function.comp_def, Option.bind_eq_some_iff]
  constructor
  · rintro ⟨_, kind, _, room, _, content, _, sender, _, timestamp, same⟩
    exact ⟨⟨_, _, _, _, _, _⟩, ⟨kind, room, content, sender, timestamp, rfl⟩,
      Option.some.inj same⟩
  · rintro ⟨d, ⟨kind, room, content, sender, timestamp, extra⟩, rfl⟩
    refine ⟨_, kind, _, room, _, content, _, sender, _, timestamp, ?_⟩
    rw [extra]
    rfl

theorem filter_insert_known {name : String} (known : name ∈ knownNames) (v : Value)
    {fields : Fields} (ascending : Fields.Ascending fields) :
    (fields.insert name v).filter (fun (name, _) => !knownNames.contains name) =
      fields.filter fun (name, _) => !knownNames.contains name := by
  apply ((ascending.insert name v).filter _).eq_of_get? (ascending.filter _)
  intro key
  have kept := Fields.get?_filter (fun name => !knownNames.contains name)
  rw [kept, kept, Fields.get?_insert]
  by_cases same : name = key
  · subst same
    simp [known]
  · rw [if_neg same]

theorem filter_insert_unknown {name : String} (unknown : name ∉ knownNames) (v : Value)
    {fields : Fields} (ascending : Fields.Ascending fields) :
    (fields.insert name v).filter (fun (name, _) => !knownNames.contains name) =
      Fields.insert name v (fields.filter fun (name, _) => !knownNames.contains name) := by
  apply ((ascending.insert name v).filter _).eq_of_get? ((ascending.filter _).insert name v)
  intro key
  have kept := Fields.get?_filter (fun name => !knownNames.contains name)
  rw [kept, Fields.get?_insert, Fields.get?_insert, kept]
  by_cases same : name = key
  · subst same
    simp [unknown]
  · rw [if_neg same, if_neg same]

/-- A field can be added to what was looked at unless a known name is there already. -/
theorem add?_of {fields : Fields} (ascending : Fields.Ascending fields) (name : String)
    (v : Value) {last : Draft} :
    (∃ d : Draft, d.Of fields ∧ d.add? (name, v) = some last) ↔
      ¬(name ∈ knownNames ∧ fields.get? name ≠ none) ∧ last.Of (fields.insert name v) := by
  by_cases unknown : name ∉ knownNames
  · have apart (known : String) (member : known ∈ knownNames) : name ≠ known := fun same =>
      unknown (same ▸ member)
    have free : ¬(name ∈ knownNames ∧ fields.get? name ≠ none) := fun there => unknown there.1
    simp only [free, not_false_eq_true, true_and, Draft.of_iff, Draft.add?_unknown unknown,
      Fields.get?_insert, filter_insert_unknown unknown v ascending, Option.some.injEq,
      if_neg (apart "type" (by decide)), if_neg (apart "room" (by decide)),
      if_neg (apart "content" (by decide)), if_neg (apart "sender" (by decide)),
      if_neg (apart "timestamp" (by decide))]
    constructor
    · rintro ⟨d, ⟨kind, room, content, sender, timestamp, extra⟩, rfl⟩
      exact ⟨kind, room, content, sender, timestamp, by rw [extra]⟩
    · rintro ⟨kind, room, content, sender, timestamp, extra⟩
      exact ⟨{ last with extra := fields.filter fun (name, _) => !knownNames.contains name },
        ⟨kind, room, content, sender, timestamp, rfl⟩, by rw [extra]⟩
  · have known : name ∈ knownNames := not_not.mp unknown
    have extra := filter_insert_known known v ascending
    have place {α : Type} {shape? : Value → Option α} {x : Option α} :
        (∃ seen, slot? shape? (fields.get? name) = some seen ∧ fresh? seen (shape? v) = some x) ↔
          fields.get? name = none ∧ slot? shape? (some v) = some x := by
      cases fields.get? name with
      | none => cases shape : shape? v <;> simp [slot?, fresh?, shape]
      | some w => cases shape : shape? w <;> simp [slot?, fresh?, shape]
    simp only [known, true_and, not_not, Draft.of_iff, extra, Fields.get?_insert]
    simp only [knownNames, List.mem_cons, List.not_mem_nil, or_false, not_not] at unknown
    rcases unknown with rfl | rfl | rfl | rfl | rfl
    all_goals
      simp only [String.reduceEq, if_true, if_false, Draft.add?, Option.map_eq_some_iff]
      constructor
    · rintro ⟨d, ⟨kind, others⟩, x, fresh, rfl⟩
      obtain ⟨absent, kind⟩ := place.mp ⟨_, kind, fresh⟩
      exact ⟨absent, kind, others⟩
    · rintro ⟨absent, kind, others⟩
      obtain ⟨seen, kind, fresh⟩ := place.mpr ⟨absent, kind⟩
      exact ⟨{ last with kind := seen }, ⟨kind, others⟩, _, fresh, rfl⟩
    · rintro ⟨d, ⟨kind, room, others⟩, x, fresh, rfl⟩
      obtain ⟨absent, room⟩ := place.mp ⟨_, room, fresh⟩
      exact ⟨absent, kind, room, others⟩
    · rintro ⟨absent, kind, room, others⟩
      obtain ⟨seen, room, fresh⟩ := place.mpr ⟨absent, room⟩
      exact ⟨{ last with room := seen }, ⟨kind, room, others⟩, _, fresh, rfl⟩
    · rintro ⟨d, ⟨kind, room, content, others⟩, x, fresh, rfl⟩
      obtain ⟨absent, content⟩ := place.mp ⟨_, content, fresh⟩
      exact ⟨absent, kind, room, content, others⟩
    · rintro ⟨absent, kind, room, content, others⟩
      obtain ⟨seen, content, fresh⟩ := place.mpr ⟨absent, content⟩
      exact ⟨{ last with content := seen }, ⟨kind, room, content, others⟩, _, fresh, rfl⟩
    · rintro ⟨d, ⟨kind, room, content, sender, others⟩, x, fresh, rfl⟩
      obtain ⟨absent, sender⟩ := place.mp ⟨_, sender, fresh⟩
      exact ⟨absent, kind, room, content, sender, others⟩
    · rintro ⟨absent, kind, room, content, sender, others⟩
      obtain ⟨seen, sender, fresh⟩ := place.mpr ⟨absent, sender⟩
      exact ⟨{ last with sender := seen }, ⟨kind, room, content, sender, others⟩, _, fresh, rfl⟩
    · rintro ⟨d, ⟨kind, room, content, sender, timestamp, extra⟩, x, fresh, rfl⟩
      obtain ⟨absent, timestamp⟩ := place.mp ⟨_, timestamp, fresh⟩
      exact ⟨absent, kind, room, content, sender, timestamp, extra⟩
    · rintro ⟨absent, kind, room, content, sender, timestamp, extra⟩
      obtain ⟨seen, timestamp, fresh⟩ := place.mpr ⟨absent, timestamp⟩
      exact ⟨{ last with timestamp := seen }, ⟨kind, room, content, sender, timestamp, extra⟩, _,
        fresh, rfl⟩

/-- A known name that occurs twice. -/
def Repeats (entries : List (String × Value)) : Prop :=
  ∃ name ∈ knownNames, 2 ≤ (entries.map Prod.fst).count name

theorem repeats_snoc (entries : List (String × Value)) (name : String) (v : Value) :
    Repeats (entries ++ [(name, v)]) ↔
      Repeats entries ∨ name ∈ knownNames ∧ (Fields.ofList entries).get? name ≠ none := by
  have there : (Fields.ofList entries).get? name ≠ none ↔
      0 < (entries.map Prod.fst).count name := by
    rw [Fields.get?_ofList, Ne, Fields.get?_eq_none_iff, List.count_pos_iff]
    simp
  rw [there]
  unfold Repeats
  simp only [List.map_append, List.map_cons, List.map_nil, List.count_append,
    List.count_singleton, beq_iff_eq]
  constructor
  · rintro ⟨known, among, twice⟩
    by_cases same : name = known
    · subst same
      rw [if_pos rfl] at twice
      exact .inr ⟨among, by omega⟩
    · rw [if_neg same] at twice
      exact .inl ⟨known, among, twice⟩
  · rintro (⟨known, among, twice⟩ | ⟨among, once⟩)
    · exact ⟨known, among, Nat.le_add_right_of_le twice⟩
    · exact ⟨name, among, by rw [if_pos rfl]; omega⟩

/-- Adding entries one after the other gives the draft of their object, unless a known name is
    repeated. -/
theorem add?_entries (entries : List (String × Value)) {last : Draft} :
    entries.foldlM Draft.add? {} = some last ↔
      ¬Repeats entries ∧ last.Of (Fields.ofList entries) := by
  induction entries using List.reverseRecOn generalizing last with
  | nil =>
      have once : ¬Repeats [] := fun ⟨_, _, twice⟩ => by simp at twice
      rw [iff_true_intro once, true_and]
      constructor
      · intro same
        cases same
        exact ⟨rfl, rfl, rfl, rfl, rfl, rfl⟩
      · obtain ⟨kind, room, content, sender, timestamp, extra⟩ := last
        rintro ⟨⟨⟩, ⟨⟩, ⟨⟩, ⟨⟩, ⟨⟩, ⟨⟩⟩
        rfl
  | append_singleton entries field ih =>
      obtain ⟨name, v⟩ := field
      have next : Fields.ofList (entries ++ [(name, v)]) =
          (Fields.ofList entries).insert name v := by
        simp only [Fields.ofList, List.foldl_append, List.foldl_cons, List.foldl_nil]
      rw [next, repeats_snoc, not_or, and_assoc,
        ← add?_of (Fields.ascending_ofList entries) name v, List.foldlM_append]
      simp only [Option.bind_eq_bind, Option.bind_eq_some_iff, ih, List.foldlM_cons,
        List.foldlM_nil, Option.pure_def, Option.some.injEq, exists_eq_right]
      constructor
      · rintro ⟨d, ⟨once, of⟩, added⟩
        exact ⟨once, d, of, added⟩
      · rintro ⟨once, d, of, added⟩
        exact ⟨d, ⟨once, of⟩, added⟩

end Drafts

section Readers

/-! ## The readers -/

variable {m : Message} {frame : Frame}

theorem read_eq_ok_iff : read data = .ok (m, rest) ↔
    ∃ d, object readField {} data = .ok (d, rest) ∧ d.finish = m := by
  unfold read
  split
  · next left brace =>
      rw [object_of_brace brace, bind_eq_ok_iff]
      constructor
      · rintro ⟨⟨d, left⟩, all, same⟩
        cases same
        exact ⟨d, all, rfl⟩
      · rintro ⟨d, all, rfl⟩
        exact ⟨(d, rest), all, rfl⟩
  · next other =>
      exact ⟨fun read => absurd read refuse_ne_ok,
        fun ⟨_, read, _⟩ => absurd read (object_of_other other)⟩

theorem readObject_eq_ok_iff {fields : Fields} : Frame.readObject data = .ok (fields, rest) ↔
    object (keepField (maxDepth - 1)) [] data = .ok (fields, rest) := by
  unfold Frame.readObject
  split
  · next left brace =>
      have read : value maxDepth (0x7B :: left) =
          (Json.fields (keepField (maxDepth - 1)) (left.length + 1) true [] left >>=
            fun read => .ok (.object read.1, read.2)) := by
        rw [value, skipBlanks_cons (by decide)]
        rfl
      rw [object_of_brace brace, read]
      simp only [bind_eq_ok_iff]
      constructor
      · rintro ⟨⟨v, last⟩, ⟨⟨read, last⟩, all, same⟩, done⟩
        cases same
        cases done
        exact all
      · intro all
        exact ⟨(.object fields, rest), ⟨(fields, rest), all, rfl⟩, rfl⟩
  · next other =>
      exact ⟨fun read => absurd read refuse_ne_ok,
        fun read => absurd read (object_of_other other)⟩

/-- The first reader takes the entries that come to a message and repeat no known name. -/
theorem decode_eq_ok_iff : decode data = .ok m ↔
    ∃ entries, entries? data = some entries ∧ ¬Repeats entries ∧
      ofFields? (Fields.ofList entries) = some m := by
  have all : decode data = .ok m ↔
      ∃ d, document (object readField {}) data = .ok d ∧ d.finish = m := by
    unfold decode
    simp only [document_eq_ok_iff, read_eq_ok_iff]
    constructor
    · rintro ⟨rest, ⟨d, read, same⟩, ended⟩
      exact ⟨d, ⟨rest, read, ended⟩, same⟩
    · rintro ⟨d, ⟨rest, read, ended⟩, same⟩
      exact ⟨rest, ⟨d, read, same⟩, ended⟩
  simp only [all, readField_gathers.document_object, add?_entries, ofFields?_eq_some_iff]
  constructor
  · rintro ⟨d, ⟨entries, read, once, of⟩, same⟩
    exact ⟨entries, read, once, d, of, same⟩
  · rintro ⟨entries, read, once, d, of, same⟩
    exact ⟨d, ⟨entries, read, once, of⟩, same⟩

/-- The second reader takes all entries and keeps what they come to. -/
theorem frame_decode_eq_ok_iff : Frame.decode data = .ok frame ↔
    ∃ entries, entries? data = some entries ∧ frame.fields = Fields.ofList entries := by
  have all : Frame.decode data = .ok frame ↔
      document (object (keepField (maxDepth - 1)) []) data = .ok frame.fields := by
    have same : document Frame.readObject data = .ok frame.fields ↔
        document (object (keepField (maxDepth - 1)) []) data = .ok frame.fields := by
      simp only [document_eq_ok_iff, readObject_eq_ok_iff]
    rw [← same]
    unfold Frame.decode
    cases document Frame.readObject data with
    | error fault => exact ⟨nofun, nofun⟩
    | ok fields =>
        constructor
        · intro read
          cases read
          rfl
        · intro read
          cases read
          rfl
  have set (entries : List (String × Value)) : entries.foldlM (fun fields (name, v) =>
      some (Fields.insert name v fields)) [] = some (Fields.ofList entries) := by
    exact List.foldlM_pure ..
  rw [all, (keepField_gathers _).document_object]
  simp only [set, Option.some.injEq, eq_comm]

/-- The two readers agree, but for known names that are repeated: a message is not read straight
    from such bytes, while the object of a frame has the last value under every name. -/
theorem readers_agree (data : Bytes) :
    (∀ m, decode data = .ok m ↔
      ¬(∃ entries, entries? data = some entries ∧ Repeats entries) ∧
        ∃ frame, Frame.decode data = .ok frame ∧ frame.message? = some m) ∧
    (∀ frame, Frame.decode data = .ok frame ↔
      ∃ entries, entries? data = some entries ∧ Fields.Ascending frame.fields ∧
        ∀ name, frame.fields.get? name = last? name entries) ∧
    ∀ m, decode data = .ok m →
      ∃ frame, Frame.decode data = .ok frame ∧ frame.message? = some m ∧
        frame.kind = .ofType (some m.kind) := by
  have agree (m : Message) : decode data = .ok m ↔
      ¬(∃ entries, entries? data = some entries ∧ Repeats entries) ∧
        ∃ frame, Frame.decode data = .ok frame ∧ frame.message? = some m := by
    simp only [decode_eq_ok_iff, frame_decode_eq_ok_iff]
    constructor
    · rintro ⟨entries, read, once, is⟩
      refine ⟨?_, ⟨Fields.ofList entries⟩, ⟨entries, read, rfl⟩, is⟩
      rintro ⟨others, again, twice⟩
      cases read.symm.trans again
      exact once twice
    · rintro ⟨once, ⟨fields⟩, ⟨entries, read, rfl⟩, is⟩
      exact ⟨entries, read, fun twice => once ⟨entries, read, twice⟩, is⟩
  refine ⟨agree, fun frame => ?_, fun m read => ?_⟩
  · rw [frame_decode_eq_ok_iff]
    refine exists_congr fun entries => and_congr_right fun _ => ?_
    constructor
    · intro same
      rw [same]
      exact ⟨Fields.ascending_ofList entries, fun name => get?_ofList_eq_last? name entries⟩
    · rintro ⟨ascending, found⟩
      refine ascending.eq_of_get? (Fields.ascending_ofList entries) fun name => ?_
      rw [found, get?_ofList_eq_last?]
  · obtain ⟨-, frame, object, is⟩ := (agree m).mp read
    exact ⟨frame, object, is, kind_of_message? is⟩

/-- A known name that is repeated further down, and an unknown one, do no harm. -/
theorem readers_agree_nested :
    let data := Utf8.ofString
      "\x7b\"x\":\x7b\"type\":1,\"type\":2\x7d,\"room\":null,\"x\":3,\"type\":\"join\"\x7d"
    ∃ m frame, decode data = .ok m ∧ Frame.decode data = .ok frame ∧ frame.message? = some m ∧
      frame.kind = .join := by
  intro data
  have told : (decode data).toOption.map (fun m => m.kind) = some "join" := by decide +kernel
  cases read : decode data with
  | error fault =>
      rw [read] at told
      cases told
  | ok m =>
      rw [read] at told
      obtain ⟨frame, object, is, kind⟩ := (readers_agree data).2.2 m read
      refine ⟨m, frame, rfl, object, is, ?_⟩
      rw [kind, show m.kind = "join" from Option.some.inj told]
      rfl

example : (decode (Utf8.ofString "\x7b\"room\":null,\"room\":\"a\"\x7d")).toOption.isNone ∧
    ((Frame.decode (Utf8.ofString "\x7b\"room\":null,\"room\":\"a\"\x7d")).toOption.bind
      Frame.message?).bind Message.room = some "a" := by
  decide +kernel

end Readers
end Message
end ChatRelay
