import ChatRelay.Proofs.Json.Fields
import ChatRelay.Proofs.Json.Numbers
import ChatRelay.Proofs.Json.Strings

/-! # Values of JSON come back

What the printer writes of a value that was read is read as that value again, if its numbers are.
The induction is on the depth of nesting, and inside on the items or fields.
-/

namespace ChatRelay.Json

/-- What the reader can give: a value nested at most `depth` times whose integers have 64 bits and
    whose objects have ascending names. -/
def Value.Fits : (depth : Nat) → Value → Prop
  | _, .null => True
  | _, .bool _ => True
  | _, .number n => n.Fits
  | _, .string _ => True
  | 0, .array _ => False
  | 0, .object _ => False
  | depth + 1, .array xs => ∀ x ∈ xs, x.Fits depth
  | depth + 1, .object fs => Fields.Ascending fs ∧ ∀ field ∈ fs, field.2.Fits depth

theorem Value.fits_null (depth : Nat) : Value.Fits depth .null := by
  cases depth <;> trivial

theorem Value.fits_bool (depth : Nat) (b : Bool) : Value.Fits depth (.bool b) := by
  cases depth <;> trivial

theorem Value.fits_string (depth : Nat) (text : String) : Value.Fits depth (.string text) := by
  cases depth <;> trivial

theorem Value.fits_number {depth : Nat} {n : Number} :
    Value.Fits depth (.number n) ↔ n.Fits := by
  cases depth <;> rfl

mutual

/-- The numbers in a value that are no integers. -/
def Value.reals : Value → List Binary64
  | .number (.real x) => [x]
  | .array xs => realsOfItems xs
  | .object fs => realsOfFields fs
  | _ => []

def realsOfItems : List Value → List Binary64
  | [] => []
  | x :: xs => x.reals ++ realsOfItems xs

def realsOfFields : List (String × Value) → List Binary64
  | [] => []
  | (_, x) :: rest => x.reals ++ realsOfFields rest

end

theorem realsOfItems_eq (xs : List Value) : realsOfItems xs = xs.flatMap Value.reals := by
  induction xs with
  | nil => rw [realsOfItems]; rfl
  | cons x xs ih => rw [realsOfItems, ih, List.flatMap_cons]

theorem realsOfFields_eq (fs : List (String × Value)) :
    realsOfFields fs = fs.flatMap fun field => field.2.reals := by
  induction fs with
  | nil => rw [realsOfFields]; rfl
  | cons field fs ih => rw [realsOfFields, ih, List.flatMap_cons]

theorem printItems_eq (xs : List Value) : printItems xs = xs.map print := by
  induction xs with
  | nil => rw [printItems]; rfl
  | cons x xs ih => rw [printItems, ih, List.map_cons]

theorem printFields_eq (fs : List (String × Value)) :
    printFields fs = fs.map fun field => printString field.1 ++ 0x3A :: print field.2 := by
  induction fs with
  | nil => rw [printFields]; rfl
  | cons field fs ih => rw [printFields, ih, List.map_cons]

/-- Parts with a comma before each of them, except before the first one of all. -/
def listed (first : Bool) (parts : List Bytes) : Bytes :=
  if first then separated parts else parts.flatMap (0x2C :: ·)

def comma (first : Bool) : Bytes := if first then [] else [0x2C]

theorem listed_cons (first : Bool) (part : Bytes) (parts : List Bytes) :
    listed first (part :: parts) = comma first ++ (part ++ listed false parts) := by
  cases first with
  | false => rfl
  | true =>
      change separated (part :: parts) = part ++ parts.flatMap (0x2C :: ·)
      induction parts generalizing part with
      | nil => simp [separated]
      | cons other parts ih =>
          have more : separated (part :: other :: parts) =
              part ++ 0x2C :: separated (other :: parts) := by
            simp [separated, List.intercalate]
          rw [more, ih, List.flatMap_cons]
          rfl

theorem listed_nil (first : Bool) : listed first [] = [] := by
  cases first <;> rfl

theorem length_listed {parts : List Bytes} (filled : ∀ part ∈ parts, part ≠ []) (first : Bool) :
    parts.length ≤ (listed first parts).length := by
  induction parts generalizing first with
  | nil => exact Nat.zero_le _
  | cons part parts ih =>
      have here := List.length_pos_iff.mpr (filled part List.mem_cons_self)
      have later := ih (fun part member => filled part (List.mem_cons_of_mem _ member)) false
      rw [listed_cons, List.length_append, List.length_append, List.length_cons]
      omega

section Lists

/-! ## Items and fields -/

variable {α : Type} {close : UInt8}

theorem next_close (visible : isBlank close = false) (first : Bool) (rest : Bytes) :
    next close first (close :: rest) = .ok (.done rest) := by
  rw [next, skipBlanks_cons visible]
  exact if_pos rfl

theorem next_more {b : UInt8} (visible : isBlank b = false) (inside : b ≠ close)
    (bracket : (0x2C : UInt8) ≠ close) (first : Bool) (rest : Bytes) :
    next close first (comma first ++ b :: rest) = .ok (.more (b :: rest)) := by
  cases first with
  | true =>
      rw [comma, if_pos rfl, List.nil_append, next, skipBlanks_cons visible]
      exact if_neg inside
  | false =>
      have blank : isBlank 0x2C = false := by decide
      simp only [comma, Bool.false_eq_true, if_false, List.singleton_append, next,
        skipBlanks_cons blank, if_neg bracket, skipBlanks_cons visible, if_neg inside, ne_eq,
        not_true_eq_false]

/-- After what was written comes a comma or the closing bracket. -/
theorem stops_listed (stops : Stops [close]) (parts : List Bytes) (rest : Bytes) :
    Stops (listed false parts ++ close :: rest) := by
  cases parts with
  | nil => exact stops
  | cons part parts =>
      have comma : Stops [0x2C] := .cons (by decide) []
      exact comma

/-- The text is read as the value, wherever it ends. -/
def Reads (read : Reader α) (text : Bytes) (x : α) : Prop :=
  ∀ rest, Stops rest → read (text ++ rest) = .ok (x, rest)

/-- The text begins with a byte that neither is blank nor closes an array. -/
def Opens (text : Bytes) : Prop :=
  ∃ b rest, text = b :: rest ∧ isBlank b = false ∧ b ≠ 0x5D

/-- The items of an array are read if each of them is. -/
theorem items_listed {item : Reader α} {shown : List (α × Bytes)}
    (each : ∀ entry ∈ shown, Opens entry.2 ∧ Reads item entry.2 entry.1)
    {fuel : Nat} (enough : shown.length < fuel) (first : Bool) (rest : Bytes) :
    items item fuel first (listed first (shown.map Prod.snd) ++ 0x5D :: rest) =
      .ok (shown.map Prod.fst, rest) := by
  induction shown generalizing first fuel with
  | nil =>
      obtain ⟨fuel, rfl⟩ := Nat.exists_eq_add_one_of_ne_zero (Nat.ne_zero_of_lt enough)
      rw [List.map_nil, listed_nil, List.nil_append, items, next_close (by decide)]
      rfl
  | cons entry shown ih =>
      obtain ⟨fuel, rfl⟩ := Nat.exists_eq_add_one_of_ne_zero (Nat.ne_zero_of_lt enough)
      obtain ⟨⟨b, tail, text, visible, inside⟩, reads⟩ := each entry List.mem_cons_self
      have bracket : Stops [0x5D] := .cons (by decide) []
      have reads := reads _ (stops_listed bracket (shown.map Prod.snd) rest)
      have later := ih (fun entry member => each entry (List.mem_cons_of_mem _ member))
        (Nat.lt_of_succ_lt_succ enough) false
      rw [List.map_cons, listed_cons, List.append_assoc, List.append_assoc]
      rw [text, List.cons_append] at reads ⊢
      rw [items, next_more visible inside (by decide)]
      change (item _ >>= _) = _
      rw [reads]
      change (items item fuel false _ >>= _) = _
      rw [later]
      rfl

/-- What is gathered from the texts of fields, if each of them is read. -/
inductive Gathered (field : String → α → Reader α) : α → List (String × Bytes) → α → Prop where
  | nil (acc : α) : Gathered field acc [] acc
  | cons {acc next last : α} {name : String} {text : Bytes} {entries : List (String × Bytes)}
      (reads : Reads (field name acc) (0x3A :: text) next)
      (later : Gathered field next entries last) :
      Gathered field acc ((name, text) :: entries) last

theorem Gathered.append {field : String → α → Reader α} {acc middle last : α}
    {entries more : List (String × Bytes)} (done : Gathered field acc entries middle)
    (later : Gathered field middle more last) : Gathered field acc (entries ++ more) last := by
  induction done with
  | nil => exact later
  | cons reads _ ih => exact .cons reads (ih later)

/-- A field as it is written. -/
def printField (entry : String × Bytes) : Bytes := printString entry.1 ++ 0x3A :: entry.2

theorem fields_listed {field : String → α → Reader α} {acc last : α}
    {entries : List (String × Bytes)} (gathered : Gathered field acc entries last) {fuel : Nat}
    (enough : entries.length < fuel) (first : Bool) (rest : Bytes) :
    fields field fuel first acc (listed first (entries.map printField) ++ 0x7D :: rest) =
      .ok (last, rest) := by
  induction gathered generalizing first fuel with
  | nil acc =>
      obtain ⟨fuel, rfl⟩ := Nat.exists_eq_add_one_of_ne_zero (Nat.ne_zero_of_lt enough)
      rw [List.map_nil, listed_nil, List.nil_append, fields, next_close (by decide)]
      rfl
  | @cons acc next last name text entries reads _ ih =>
      obtain ⟨fuel, rfl⟩ := Nat.exists_eq_add_one_of_ne_zero (Nat.ne_zero_of_lt enough)
      have brace : Stops [0x7D] := .cons (by decide) []
      have reads := reads _ (stops_listed brace (entries.map printField) rest)
      have later := ih (Nat.lt_of_succ_lt_succ enough) false
      rw [List.map_cons, listed_cons, List.append_assoc, List.append_assoc, printField,
        List.append_assoc, printString_append, fields, next_more (by decide) (by decide) (by decide)]
      change (string _ >>= _) = _
      rw [string_printed]
      change (field name acc _ >>= _) = _
      rw [reads]
      exact later

end Lists

section Values

/-! ## Values -/

theorem visible_of_isDigit {b : UInt8} (digit : isDigit b = true) :
    isBlank b = false ∧ b ∉ [0x6E, 0x74, 0x66, 0x2D, 0x22, 0x5B, 0x5D, 0x7B] := by
  have apart {c : UInt8} (other : isDigit c = false) : b ≠ c := by
    rintro rfl
    exact Bool.false_ne_true (other.symm.trans digit)
  constructor
  · have space : b ≠ 0x20 := apart (by decide)
    have tab : b ≠ 0x09 := apart (by decide)
    have newline : b ≠ 0x0A := apart (by decide)
    have carriage : b ≠ 0x0D := apart (by decide)
    simp [isBlank, space, tab, newline, carriage]
  · simp only [List.mem_cons, List.not_mem_nil, or_false, not_or]
    refine ⟨?_, ?_, ?_, ?_, ?_, ?_, ?_, ?_⟩ <;> exact apart (by decide)

/-- What is read as a number without a sign begins with a digit. -/
theorem digit_of_number {negative : Bool} {data rest : Bytes} {n : Number}
    (read : number negative data = .ok (n, rest)) :
    ∃ d left, data = d :: left ∧ isDigit d = true := by
  cases data with
  | nil => cases read
  | cons d left =>
      refine ⟨d, left, rfl, ?_⟩
      unfold number at read
      cases digit : isDigit d with
      | true => rfl
      | false =>
          simp only [digit] at read
          cases read

theorem value_digit {depth : Nat} {d : UInt8} (digit : isDigit d = true) (rest : Bytes) :
    value depth (d :: rest) =
      (number false (d :: rest)).map fun (n, rest) => (.number n, rest) := by
  obtain ⟨visible, other⟩ := visible_of_isDigit digit
  simp only [List.mem_cons, List.not_mem_nil, or_false, not_or] at other
  obtain ⟨n, t, f, minus, -⟩ := other
  rw [value, skipBlanks_cons visible]
  simp only [if_neg n, if_neg t, if_neg f, if_neg minus, digit, if_true]
  cases number false (d :: rest) <;> rfl

theorem value_minus {depth : Nat} (rest : Bytes) : value depth (0x2D :: rest) =
    (number true rest).map fun (n, rest) => (.number n, rest) := by
  rw [value, skipBlanks_cons (by decide)]
  change (number true rest >>= _) = _
  cases number true rest <;> rfl

/-- The text of a number is its sign and what is read after it. -/
theorem printNumber_cases {n : Number} (fits : n.Fits) (back : ∀ x, n = .real x → ReadsBack x) :
    ∃ negative text, printNumber n = (if negative then 0x2D :: text else text) ∧
      Reads (number negative) text n := by
  cases n with
  | integer n =>
      obtain ⟨least, most⟩ := fits
      have small : n.natAbs < significandLimit := by
        unfold significandLimit
        omega
      by_cases negative : n < 0
      · refine ⟨true, Utf8.encode (Nat.toDigits 10 n.natAbs), ?_, fun rest stops => ?_⟩
        · rw [printNumber, if_pos negative]
          rfl
        · have some : ¬(n.natAbs = 0 ∨ 9223372036854775808 < n.natAbs) := by omega
          have same : -(n.natAbs : Int) = n := by omega
          rw [number_toDigits small stops, whole, if_neg (by decide), if_neg (by decide),
            if_neg some, same]
          rfl
      · refine ⟨false, Utf8.encode (Nat.toDigits 10 n.natAbs), ?_, fun rest stops => ?_⟩
        · rw [printNumber, if_neg negative]
          rfl
        · have same : (n.natAbs : Int) = n := by omega
          rw [number_toDigits small stops, whole, if_neg (by decide), if_pos (by decide), same]
          rfl
  | real x =>
      refine ⟨x.negative, Utf8.encode x.shortest.compact, ?_, fun rest stops => ?_⟩
      · rw [printNumber, Binary64.compactText]
        cases x.negative <;> rfl
      · have read := back x rfl
        unfold ReadsBack at read
        cases outcome : number x.negative (Utf8.encode x.shortest.compact) with
        | error fault =>
            rw [outcome] at read
            cases read
        | ok pair =>
            rw [outcome] at read
            cases read
            exact number_append stops outcome

/-- A printed number is read back. -/
theorem value_printNumber {depth : Nat} {n : Number} (fits : n.Fits)
    (back : ∀ x, n = .real x → ReadsBack x) :
    Opens (printNumber n) ∧ Reads (value depth) (printNumber n) (.number n) := by
  obtain ⟨negative, text, printed, reads⟩ := printNumber_cases fits back
  rw [printed]
  cases negative with
  | true =>
      refine ⟨⟨0x2D, text, rfl, by decide, by decide⟩, fun rest stops => ?_⟩
      rw [if_pos rfl, List.cons_append, value_minus, reads rest stops]
      rfl
  | false =>
      obtain ⟨d, left, rfl, digit⟩ : ∃ d left, text = d :: left ∧ isDigit d = true := by
        have alone := reads [] .nil
        rw [List.append_nil] at alone
        exact digit_of_number alone
      obtain ⟨visible, other⟩ := visible_of_isDigit digit
      refine ⟨⟨d, left, rfl, visible, fun same => other (by simp [same])⟩, fun rest stops => ?_⟩
      have read := reads rest stops
      rw [if_neg (by decide), List.cons_append, value_digit digit]
      rw [List.cons_append] at read
      rw [read]
      rfl

theorem value_array {depth : Nat} {xs : List Value}
    (each : ∀ x ∈ xs, Opens (print x) ∧ Reads (value depth) (print x) x) :
    Reads (value (depth + 1)) (print (.array xs)) (.array xs) := by
  intro rest _
  have entries : ∀ entry ∈ xs.map fun x => (x, print x), Opens entry.2 ∧
      Reads (value depth) entry.2 entry.1 := by
    intro entry member
    obtain ⟨x, there, rfl⟩ := List.mem_map.mp member
    exact each x there
  have shown : (xs.map fun x => (x, print x)).map Prod.snd = printItems xs := by
    rw [printItems_eq, List.map_map]
    rfl
  have items : (xs.map fun x => (x, print x)).map Prod.fst = xs := by
    rw [List.map_map]
    exact List.map_id xs
  have filled : ∀ part ∈ printItems xs, part ≠ [] := by
    rw [printItems_eq]
    intro part member empty
    obtain ⟨x, there, rfl⟩ := List.mem_map.mp member
    obtain ⟨⟨b, left, text, -⟩, -⟩ := each x there
    exact List.cons_ne_nil b left (text.symm.trans empty)
  have long := length_listed filled true
  have enough : (xs.map fun x => (x, print x)).length <
      (separated (printItems xs) ++ 0x5D :: rest).length + 1 := by
    rw [printItems_eq, List.length_map, ← printItems_eq] at long
    change xs.length ≤ (separated (printItems xs)).length at long
    rw [List.length_map, List.length_append]
    omega
  have read := items_listed entries enough true rest
  rw [shown, items] at read
  rw [print, List.append_assoc, List.cons_append, value, skipBlanks_cons (by decide)]
  change (Json.items (value depth) _ true _ >>= _) = _
  rw [List.singleton_append]
  change Json.items (value depth) _ true (separated (printItems xs) ++ _) = _ at read
  rw [read]
  rfl

/-- The text of a field with its value. -/
def shown (field : String × Value) : String × Bytes := (field.1, print field.2)

theorem print_object (fs : List (String × Value)) (rest : Bytes) :
    print (.object fs) ++ rest = 0x7B :: (separated (printFields fs) ++ 0x7D :: rest) := by
  rw [print, List.append_assoc, List.cons_append, List.singleton_append]

/-- The fields of an object are read after its bracket. -/
theorem fields_print {field : String → α → Reader α} {acc last : α} {fs : List (String × Value)}
    (gathered : Gathered field acc (fs.map shown) last) (rest : Bytes) :
    fields field ((separated (printFields fs) ++ 0x7D :: rest).length + 1) true acc
      (separated (printFields fs) ++ 0x7D :: rest) = .ok (last, rest) := by
  have parts : (fs.map shown).map printField = printFields fs := by
    rw [printFields_eq, List.map_map]
    rfl
  have filled : ∀ part ∈ printFields fs, part ≠ [] := by
    rw [printFields_eq]
    intro part member empty
    obtain ⟨field, there, rfl⟩ := List.mem_map.mp member
    cases empty
  have long : (printFields fs).length ≤ (separated (printFields fs)).length :=
    length_listed filled true
  have enough : (fs.map shown).length <
      (separated (printFields fs) ++ 0x7D :: rest).length + 1 := by
    rw [← parts, List.length_map, parts] at long
    rw [List.length_append]
    omega
  have read := fields_listed gathered enough true rest
  rw [parts] at read
  exact read

/-- The reader of the fields of any object. -/
def keepField (depth : Nat) (name : String) (acc : Fields) : Reader Fields := fun data => do
  let ((), data) ← colon data
  let (v, data) ← value depth data
  .ok (Fields.insert name v acc, data)

theorem gathered_keepField {depth : Nat} {fs : List (String × Value)}
    (each : ∀ field ∈ fs, Reads (value depth) (print field.2) field.2) (acc : Fields) :
    Gathered (keepField depth) acc (fs.map shown)
      (fs.foldl (fun acc (name, value) => acc.insert name value) acc) := by
  induction fs generalizing acc with
  | nil => exact .nil acc
  | cons field fs ih =>
      refine .cons (fun rest stops => ?_)
        (ih (fun field member => each field (List.mem_cons_of_mem _ member)) _)
      have read := each field List.mem_cons_self rest stops
      have blank : isBlank 0x3A = false := by decide
      simp only [keepField, colon, List.cons_append, skipBlanks_cons blank, if_true]
      change (value depth _ >>= _) = _
      rw [read]
      rfl

/-- An object that is written with any fields is read as what setting them gives. -/
theorem value_object {depth : Nat} {fs : List (String × Value)}
    (each : ∀ field ∈ fs, Reads (value depth) (print field.2) field.2) :
    Reads (value (depth + 1)) (print (.object fs)) (.object (Fields.ofList fs)) := by
  intro rest _
  have read := fields_print (gathered_keepField each []) rest
  rw [print_object, value, skipBlanks_cons (by decide)]
  change (fields (keepField depth) _ true [] _ >>= _) = _
  rw [read]
  rfl

/-- A printed value is read back. -/
theorem value_print {depth : Nat} {v : Value} (fits : v.Fits depth)
    (back : ∀ x ∈ v.reals, ReadsBack x) :
    Opens (print v) ∧ Reads (value depth) (print v) v := by
  induction depth using Nat.strongRecOn generalizing v with
  | ind depth ih =>
      -- a word such as null, whose first letter says which it is
      have word {v : Value} {letters : Bytes} {first : UInt8}
          (printed : print v = first :: letters) (visible : isBlank first = false)
          (inside : first ≠ 0x5D)
          (read : ∀ rest, value depth (first :: (letters ++ rest)) =
            (word letters (letters ++ rest) >>= fun read => .ok (v, read.2))) :
          Opens (print v) ∧ Reads (value depth) (print v) v := by
        refine ⟨⟨first, letters, printed, visible, inside⟩, fun rest _ => ?_⟩
        rw [printed, List.cons_append, read, word_append]
        rfl
      cases v with
      | null => exact word (by rw [print]; rfl) (by decide) (by decide) fun rest => by rw [value]; rfl
      | bool b =>
          cases b with
          | true =>
              exact word (by rw [print]; rfl) (by decide) (by decide) fun rest => by rw [value]; rfl
          | false =>
              exact word (by rw [print]; rfl) (by decide) (by decide) fun rest => by rw [value]; rfl
      | number n =>
          rw [print]
          refine value_printNumber (Value.fits_number.mp fits) fun x real => back x ?_
          rw [real, Value.reals]
          exact List.mem_singleton_self x
      | string text =>
          rw [print]
          refine ⟨⟨0x22, _, rfl, by decide, by decide⟩, fun rest _ => ?_⟩
          rw [printString_append, value, skipBlanks_cons (by decide)]
          change (string _ >>= _) = _
          rw [string_printed]
          rfl
      | array xs =>
          cases depth with
          | zero => exact fits.elim
          | succ depth =>
              refine ⟨⟨0x5B, separated (printItems xs) ++ [0x5D], by rw [print]; rfl, by decide,
                by decide⟩, value_array fun x there => ?_⟩
              refine ih depth (Nat.lt_succ_self depth) (fits x there) fun r real => back r ?_
              rw [Value.reals, realsOfItems_eq]
              exact List.mem_flatMap.mpr ⟨x, there, real⟩
      | object fs =>
          cases depth with
          | zero => exact fits.elim
          | succ depth =>
              have each : ∀ field ∈ fs, Reads (value depth) (print field.2) field.2 := by
                intro field there
                refine (ih depth (Nat.lt_succ_self depth) (fits.2 field there) fun r real =>
                  back r ?_).2
                rw [Value.reals, realsOfFields_eq]
                exact List.mem_flatMap.mpr ⟨field, there, real⟩
              have read := value_object each
              rw [Fields.ofList_of_ascending fits.1] at read
              exact ⟨⟨0x7B, separated (printFields fs) ++ [0x7D], by rw [print]; rfl, by decide,
                by decide⟩, read⟩

section Fitting

/-! ## What is read fits -/

variable {data rest : Bytes}

theorem of_bind {β : Type} {outcome : Except Fault α} {next : α → Except Fault β} {y : β}
    (done : outcome >>= next = .ok y) : ∃ x, outcome = .ok x ∧ next x = .ok y := by
  cases outcome with
  | error fault => cases done
  | ok x => exact ⟨x, rfl, done⟩

theorem of_items {item : Reader α} {good : α → Prop}
    (each : ∀ {data x rest}, item data = .ok (x, rest) → good x) {fuel : Nat} {first : Bool}
    {xs : List α} (read : items item fuel first data = .ok (xs, rest)) : ∀ x ∈ xs, good x := by
  induction fuel generalizing first data xs with
  | zero => cases read
  | succ fuel ih =>
      rw [items] at read
      obtain ⟨next, -, read⟩ := of_bind read
      cases next with
      | done left =>
          cases read
          exact fun _ => nofun
      | more left =>
          obtain ⟨⟨x, left⟩, one, read⟩ := of_bind read
          obtain ⟨⟨xs, left⟩, others, read⟩ := of_bind read
          cases read
          exact List.forall_mem_cons.mpr ⟨each one, ih others⟩

theorem of_fields {field : String → α → Reader α} (good : α → Prop)
    (each : ∀ {name acc data next rest}, good acc → field name acc data = .ok (next, rest) →
      good next) {fuel : Nat} {first : Bool} {acc last : α} (start : good acc)
    (read : fields field fuel first acc data = .ok (last, rest)) : good last := by
  induction fuel generalizing first acc data with
  | zero => cases read
  | succ fuel ih =>
      rw [fields] at read
      obtain ⟨next, -, read⟩ := of_bind read
      cases next with
      | done left =>
          cases read
          exact start
      | more left =>
          simp only at read
          split at read
          · obtain ⟨⟨name, left⟩, -, read⟩ := of_bind read
            obtain ⟨⟨acc, left⟩, one, read⟩ := of_bind read
            exact ih (each start one) read
          · cases read

/-- A value that is read fits. -/
theorem fits_value {depth : Nat} {v : Value} (read : value depth data = .ok (v, rest)) :
    v.Fits depth := by
  induction depth using Nat.strongRecOn generalizing data v rest with
  | ind depth ih =>
      have leaf {v : Value} (plain : v.Fits depth) {β : Type}
          {outcome : Except Fault (β × Bytes)} {w : Value}
          (read : (outcome >>= fun read => Except.ok (v, read.2)) = .ok (w, rest)) :
          w.Fits depth := by
        obtain ⟨_, -, read⟩ := of_bind read
        cases read
        exact plain
      rw [value] at read
      split at read
      · cases read
      split at read
      · exact leaf (Value.fits_null depth) read
      split at read
      · exact leaf (Value.fits_bool depth true) read
      split at read
      · exact leaf (Value.fits_bool depth false) read
      split at read
      · obtain ⟨⟨n, left⟩, one, read⟩ := of_bind read
        cases read
        exact Value.fits_number.mpr (fits_number one)
      split at read
      · obtain ⟨⟨n, left⟩, one, read⟩ := of_bind read
        cases read
        exact Value.fits_number.mpr (fits_number one)
      split at read
      · obtain ⟨⟨text, left⟩, -, read⟩ := of_bind read
        cases read
        exact Value.fits_string depth text
      split at read
      · cases depth with
        | zero => cases read
        | succ depth =>
            obtain ⟨⟨xs, left⟩, all, read⟩ := of_bind read
            cases read
            exact of_items (fun one => ih depth (Nat.lt_succ_self depth) one) all
      split at read
      · cases depth with
        | zero => cases read
        | succ depth =>
            obtain ⟨⟨fs, left⟩, all, read⟩ := of_bind read
            cases read
            refine of_fields (fun fs => Fields.Ascending fs ∧ ∀ field ∈ fs,
              field.2.Fits depth) ?_ ⟨.nil, nofun⟩ all
            intro name acc data next rest good read
            obtain ⟨⟨_, left⟩, -, read⟩ := of_bind read
            obtain ⟨⟨x, left⟩, one, read⟩ := of_bind read
            cases read
            refine ⟨good.1.insert name x, fun field member => ?_⟩
            rcases Fields.mem_of_mem_insert member with rfl | member
            · exact ih depth (Nat.lt_succ_self depth) one
            · exact good.2 field member
      · cases read

theorem refuse_ne_ok {x : α} : refuse data ≠ .ok x := by
  intro read
  unfold refuse at read
  split at read
  · cases read
  split at read
  · cases read
  split at read <;> cases read

end Fitting
end Values
end ChatRelay.Json
