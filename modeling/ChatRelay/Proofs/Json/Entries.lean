import ChatRelay.Proofs.Json.Values

/-! # The entries of an object

What stands between the braces of an object, in the order of the text and with the names that are
repeated. Whoever reads an object field by field gathers what these entries come to.
-/

namespace ChatRelay.Json

/-- The colon and the value of a field. -/
def entry (depth : Nat) : Reader Value := fun data => do
  let ((), data) ← colon data
  value depth data

/-- Keep a field behind those before it. -/
def keepEntry (depth : Nat) (name : String) (entries : List (String × Value)) :
    Reader (List (String × Value)) := fun data => do
  let (v, data) ← entry depth data
  .ok (entries ++ [(name, v)], data)

/-- An object at the front of the data, for a caller who wants each field. -/
def object (field : String → α → Reader α) (start : α) : Reader α := fun data =>
  match skipBlanks data with
  | 0x7B :: rest => fields field (rest.length + 1) true start rest
  | data => refuse data

/-- The entries of the object that the text holds. -/
def entries? (data : Bytes) : Option (List (String × Value)) :=
  (document (object (keepEntry (maxDepth - 1)) []) data).toOption

/-- The value of the last entry under a name. -/
def last? (name : String) (entries : List (String × Value)) : Option Value :=
  (entries.reverse.find? fun entry => entry.1 = name).map Prod.snd

variable {α : Type} {data rest : Bytes} {depth : Nat}

theorem bind_eq_ok_iff {β : Type} {outcome : Except Fault α} {next : α → Except Fault β} {y : β} :
    outcome >>= next = .ok y ↔ ∃ x, outcome = .ok x ∧ next x = .ok y := by
  refine ⟨of_bind, ?_⟩
  rintro ⟨x, rfl, done⟩
  exact done

theorem document_eq_ok_iff {read : Reader α} {x : α} :
    document read data = .ok x ↔ ∃ rest, read data = .ok (x, rest) ∧ skipBlanks rest = [] := by
  unfold document
  rw [bind_eq_ok_iff]
  constructor
  · rintro ⟨⟨y, rest⟩, read, done⟩
    simp only at done
    split at done
    · next ended =>
        cases done
        exact ⟨rest, read, ended⟩
    · cases done
  · rintro ⟨rest, read, ended⟩
    refine ⟨(x, rest), read, ?_⟩
    simp only [ended]

theorem object_of_brace {field : String → α → Reader α} {start : α} {left : Bytes}
    (brace : skipBlanks data = 0x7B :: left) :
    object field start data = fields field (left.length + 1) true start left := by
  simp only [object, brace]

theorem object_of_other {field : String → α → Reader α} {start : α} {outcome : α × Bytes}
    (other : ∀ left, skipBlanks data = 0x7B :: left → False) :
    object field start data ≠ .ok outcome := by
  intro read
  unfold object at read
  split at read
  · next left brace => exact other left brace
  · exact refuse_ne_ok read

theorem keepEntry_eq_ok_iff {name : String} {entries kept : List (String × Value)} :
    keepEntry depth name entries data = .ok (kept, rest) ↔
      ∃ v, entry depth data = .ok (v, rest) ∧ kept = entries ++ [(name, v)] := by
  unfold keepEntry
  rw [bind_eq_ok_iff]
  constructor
  · rintro ⟨⟨v, left⟩, read, same⟩
    cases same
    exact ⟨v, read, rfl⟩
  · rintro ⟨v, read, rfl⟩
    exact ⟨(v, rest), read, rfl⟩

/-- A field is read if it is an entry that can be added. -/
structure Gathers (depth : Nat) (field : String → α → Reader α)
    (add? : α → String × Value → Option α) : Prop where
  field_eq_ok_iff : ∀ {name acc data next rest}, field name acc data = .ok (next, rest) ↔
    ∃ v, entry depth data = .ok (v, rest) ∧ add? acc (name, v) = some next

theorem keepField_gathers (depth : Nat) : Gathers depth (keepField depth)
    fun fields (name, v) => some (Fields.insert name v fields) := by
  refine ⟨fun {name acc data next rest} => ?_⟩
  simp only [keepField, entry, bind_eq_ok_iff]
  constructor
  · rintro ⟨⟨_, left⟩, colon, ⟨v, left⟩, read, same⟩
    cases same
    exact ⟨v, ⟨_, colon, read⟩, rfl⟩
  · rintro ⟨v, ⟨_, colon, read⟩, same⟩
    cases same
    exact ⟨_, colon, _, read, rfl⟩

/-- What comes before the entries that are read stays. -/
theorem of_keepEntry {done all : List (String × Value)} {fuel : Nat} {first : Bool}
    (read : fields (keepEntry depth) fuel first done data = .ok (all, rest)) :
    ∃ entries, all = done ++ entries := by
  refine of_fields (fun all => ∃ entries, all = done ++ entries) ?_ ⟨[], by rw [List.append_nil]⟩
    read
  rintro name _ data next rest ⟨entries, rfl⟩ one
  obtain ⟨v, -, rfl⟩ := keepEntry_eq_ok_iff.mp one
  exact ⟨entries ++ [(name, v)], List.append_assoc ..⟩

namespace Gathers

variable {field : String → α → Reader α} {add? : α → String × Value → Option α}

theorem fields_eq_ok_iff (gathers : Gathers depth field add?) {fuel : Nat} {first : Bool}
    {acc last : α} (done : List (String × Value)) :
    fields field fuel first acc data = .ok (last, rest) ↔
      ∃ entries, fields (keepEntry depth) fuel first done data = .ok (done ++ entries, rest) ∧
        entries.foldlM add? acc = some last := by
  induction fuel generalizing first acc data done with
  | zero => simp [fields]
  | succ fuel ih =>
      simp only [fields]
      cases next 0x7D first data with
      | error fault => simp [bind, Except.bind]
      | ok item =>
          cases item with
          | done left =>
              constructor
              · intro read
                cases read
                exact ⟨[], by rw [List.append_nil]; rfl, rfl⟩
              · rintro ⟨entries, read, added⟩
                simp only [bind, Except.bind, Except.ok.injEq, Prod.mk.injEq,
                  List.self_eq_append_right] at read
                obtain ⟨rfl, rfl⟩ := read
                cases added
                rfl
          | more left =>
              simp only [bind, Except.bind]
              split
              · next left =>
                cases string left with
                | error fault => simp
                | ok named =>
                    obtain ⟨name, left⟩ := named
                    change (field name acc left >>= _) = _ ↔
                      ∃ entries, (keepEntry depth name done left >>= _) = _ ∧ _
                    simp only [bind_eq_ok_iff]
                    constructor
                    · rintro ⟨⟨middle, left⟩, one, others⟩
                      obtain ⟨v, read, added⟩ := gathers.field_eq_ok_iff.mp one
                      obtain ⟨entries, kept, all⟩ := (ih (done ++ [(name, v)])).mp others
                      rw [List.append_assoc, List.singleton_append] at kept
                      refine ⟨(name, v) :: entries, ⟨(done ++ [(name, v)], left),
                        keepEntry_eq_ok_iff.mpr ⟨v, read, rfl⟩, kept⟩, ?_⟩
                      rw [List.foldlM_cons, added]
                      exact all
                    · rintro ⟨entries, ⟨⟨_, left⟩, one, others⟩, all⟩
                      obtain ⟨v, read, rfl⟩ := keepEntry_eq_ok_iff.mp one
                      obtain ⟨later, same⟩ := of_keepEntry others
                      rw [List.append_assoc, List.append_cancel_left_eq] at same
                      subst same
                      rw [List.singleton_append, List.foldlM_cons] at all
                      obtain ⟨middle, added, all⟩ := Option.bind_eq_some_iff.mp all
                      refine ⟨(middle, left), gathers.field_eq_ok_iff.mpr ⟨v, read, added⟩, ?_⟩
                      exact (ih (done ++ [(name, v)])).mpr
                        ⟨later, by rwa [List.append_assoc], all⟩
              · simp

/-- An object that is read field by field comes to what its entries come to. -/
theorem document_object (gathers : Gathers (maxDepth - 1) field add?) {start last : α} :
    document (object field start) data = .ok last ↔
      ∃ entries, entries? data = some entries ∧ entries.foldlM add? start = some last := by
  have kept (entries : List (String × Value)) : entries? data = some entries ↔
      document (object (keepEntry (maxDepth - 1)) []) data = .ok entries := by
    unfold entries?
    cases document (object (keepEntry (maxDepth - 1)) []) data <;> simp [Except.toOption]
  have object {rest : Bytes} : object field start data = .ok (last, rest) ↔
      ∃ entries, object (keepEntry (maxDepth - 1)) [] data = .ok (entries, rest) ∧
        entries.foldlM add? start = some last := by
    by_cases brace : ∃ left, skipBlanks data = 0x7B :: left
    · obtain ⟨left, brace⟩ := brace
      simp only [object_of_brace brace]
      exact gathers.fields_eq_ok_iff []
    · have other (left : Bytes) (is : skipBlanks data = 0x7B :: left) : False := brace ⟨left, is⟩
      exact ⟨fun read => absurd read (object_of_other other),
        fun ⟨_, read, _⟩ => absurd read (object_of_other other)⟩
  simp only [kept, document_eq_ok_iff, object]
  constructor
  · rintro ⟨rest, ⟨entries, read, added⟩, ended⟩
    exact ⟨entries, ⟨rest, read, ended⟩, added⟩
  · rintro ⟨entries, ⟨rest, read, ended⟩, added⟩
    exact ⟨rest, ⟨entries, read, added⟩, ended⟩

end Gathers

theorem get?_eq_find? (name : String) (entries : List (String × Value)) :
    Fields.get? name entries = (entries.find? fun entry => entry.1 = name).map Prod.snd := by
  induction entries with
  | nil => rfl
  | cons entry entries ih =>
      rw [Fields.get?_cons, List.find?_cons]
      by_cases same : entry.1 = name <;> simp [same, ih]

theorem get?_ofList_eq_last? (name : String) (entries : List (String × Value)) :
    Fields.get? name (Fields.ofList entries) = last? name entries := by
  rw [Fields.get?_ofList, get?_eq_find?]
  rfl

end ChatRelay.Json
