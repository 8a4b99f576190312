import ChatRelay.Proofs.Text.Exchange

/-! # Which byte strings are texts

What is read as text is written as the same bytes, so a valid byte string is that of exactly one
text. Texts can be put together, and cut before and after any character.
-/

namespace ChatRelay.Utf8

variable {data rest : Bytes} {c : Char}

theorem toNat_charOfCode? {n : Nat} (found : charOfCode? n = some c) : c.toNat = n := by
  by_cases valid : n.isValidChar
  · rw [charOfCode?, dif_pos valid] at found
    cases found
    rfl
  · rw [charOfCode?, dif_neg valid] at found
    cases found

theorem accept_eq_some {least code : Nat} {left : Bytes}
    (found : accept least code rest = some (c, left)) :
    least ≤ code ∧ c.toNat = code ∧ left = rest := by
  have same := accept_rest found
  unfold accept at found
  split at found
  · cases found
  · next enough =>
      obtain ⟨c', code, is⟩ := Option.map_eq_some_iff.mp found
      cases is
      exact ⟨Nat.not_lt.mp enough, toNat_charOfCode? code, same⟩

theorem continuation?_eq_some {b : UInt8} {x : Nat} (found : continuation? b = some x) :
    x < 64 ∧ UInt8.ofNat (0x80 + x) = b := by
  unfold continuation? at found
  split at found
  · next range =>
      have code : 0x80 + x = b.toNat := by
        rw [← Option.some.inj found]
        exact Nat.add_sub_cancel' range.1
      refine ⟨by omega, ?_⟩
      rw [code]
      exact UInt8.ofNat_toNat
  · cases found

theorem ofNat_eq {b : UInt8} {n : Nat} (same : n = b.toNat) : UInt8.ofNat n = b := by
  rw [same]
  exact UInt8.ofNat_toNat

/-! A character that is read from one, two, three or four bytes is written in them. -/

section Widths

variable {a b b' b'' : UInt8} {x y z : Nat}

theorem eq_encodeChar_one (one : a.toNat < 0x80)
    (read : accept 0 a.toNat data = some (c, rest)) : a :: data = encodeChar c ++ rest := by
  obtain ⟨-, code, rfl⟩ := accept_eq_some read
  rw [encodeChar, code, encodeCode, if_pos one, ofNat_eq rfl]
  rfl

theorem eq_encodeChar_two (least : 0xC0 ≤ a.toNat) (two : a.toNat < 0xE0)
    (second : continuation? b = some x)
    (read : accept 0x80 ((a.toNat - 0xC0) * 64 + x) data = some (c, rest)) :
    a :: b :: data = encodeChar c ++ rest := by
  obtain ⟨small, byte⟩ := continuation?_eq_some second
  obtain ⟨shortest, code, rfl⟩ := accept_eq_some read
  have lead : UInt8.ofNat (0xC0 + c.toNat / 64) = a := ofNat_eq (by omega)
  have low : c.toNat % 64 = x := by omega
  rw [encodeChar, encodeCode_two (by omega) (by omega), lead, low, byte]
  rfl

theorem eq_encodeChar_three (least : 0xE0 ≤ a.toNat) (three : a.toNat < 0xF0)
    (second : continuation? b = some x) (third : continuation? b' = some y)
    (read : accept 0x800 (((a.toNat - 0xE0) * 64 + x) * 64 + y) data = some (c, rest)) :
    a :: b :: b' :: data = encodeChar c ++ rest := by
  obtain ⟨small, byte⟩ := continuation?_eq_some second
  obtain ⟨small', byte'⟩ := continuation?_eq_some third
  obtain ⟨shortest, code, rfl⟩ := accept_eq_some read
  have lead : UInt8.ofNat (0xE0 + c.toNat / 4096) = a := ofNat_eq (by omega)
  have middle : c.toNat / 64 % 64 = x := by omega
  have low : c.toNat % 64 = y := by omega
  rw [encodeChar, encodeCode_three (by omega) (by omega), lead, middle, low, byte, byte']
  rfl

theorem eq_encodeChar_four (least : 0xF0 ≤ a.toNat) (second : continuation? b = some x)
    (third : continuation? b' = some y) (fourth : continuation? b'' = some z)
    (read : accept 0x10000 ((((a.toNat - 0xF0) * 64 + x) * 64 + y) * 64 + z) data =
      some (c, rest)) :
    a :: b :: b' :: b'' :: data = encodeChar c ++ rest := by
  obtain ⟨small, byte⟩ := continuation?_eq_some second
  obtain ⟨small', byte'⟩ := continuation?_eq_some third
  obtain ⟨small'', byte''⟩ := continuation?_eq_some fourth
  obtain ⟨shortest, code, rfl⟩ := accept_eq_some read
  have lead : UInt8.ofNat (0xF0 + c.toNat / 262144) = a := ofNat_eq (by omega)
  have high : c.toNat / 4096 % 64 = x := by omega
  have middle : c.toNat / 64 % 64 = y := by omega
  have low : c.toNat % 64 = z := by omega
  rw [encodeChar, encodeCode_four (by omega), lead, high, middle, low, byte, byte', byte'']
  rfl

end Widths

/-- A character is read only from its own bytes. -/
theorem eq_encodeChar_append (read : decodeChar? data = some (c, rest)) :
    data = encodeChar c ++ rest := by
  unfold decodeChar? at read
  split at read
  · cases read
  next a tail =>
  split at read
  · next one => exact eq_encodeChar_one one read
  next more =>
  split at read
  · cases read
  next least =>
  split at read
  · next two =>
      split at read
      · split at read
        · next second => exact eq_encodeChar_two (by omega) two second read
        · cases read
      · cases read
  next more =>
  split at read
  · next three =>
      split at read
      · split at read
        · next second third => exact eq_encodeChar_three (by omega) three second third read
        · cases read
      · cases read
  next most =>
  split at read
  · split at read
    · split at read
      · next second third fourth =>
          exact eq_encodeChar_four (by omega) second third fourth read
      · cases read
    · cases read
  · cases read

theorem decode?_eq_some_iff {text : List Char} : decode? data = some text ↔ data = encode text := by
  refine ⟨fun read => ?_, fun same => same ▸ decode?_encode text⟩
  induction data using decode?.induct generalizing text with
  | case1 =>
      rw [decode?] at read
      cases read
      rfl
  | case2 a tail broken =>
      rw [decode?] at read
      split at read
      · cases read
      · next found => cases broken.symm.trans found
  | case3 a tail c rest found shorter ih =>
      rw [decode?] at read
      split at read
      · cases read
      · next found' =>
          cases found.symm.trans found'
          obtain ⟨text, later, rfl⟩ := Option.map_eq_some_iff.mp read
          rw [eq_encodeChar_append found, ih later]
          rfl

theorem toString?_eq_some_iff {text : String} :
    toString? data = some text ↔ data = ofString text := by
  refine ⟨fun read => ?_, fun same => same ▸ toString?_ofString text⟩
  obtain ⟨characters, found, rfl⟩ := Option.map_eq_some_iff.mp read
  rw [ofString, String.toList_ofList]
  exact decode?_eq_some_iff.mp found

/-! ## Putting together and cutting -/

/-- A byte string that is the one of some text. -/
def IsText (data : Bytes) : Prop := ∃ text, data = encode text

theorem isValid_iff : isValid data = true ↔ IsText data := by
  simp only [isValid, Option.isSome_iff_exists, decode?_eq_some_iff, IsText]

theorem isText_ofString (text : String) : IsText (ofString text) := ⟨_, rfl⟩

theorem isText_encode (text : List Char) : IsText (encode text) := ⟨text, rfl⟩

theorem isText_encodeChar (c : Char) : IsText (encodeChar c) := ⟨[c], (List.append_nil _).symm⟩

theorem isText_nil : IsText [] := ⟨[], rfl⟩

theorem IsText.append (first : IsText data) (second : IsText rest) : IsText (data ++ rest) := by
  obtain ⟨text, rfl⟩ := first
  obtain ⟨text', rfl⟩ := second
  exact ⟨text ++ text', List.flatMap_append.symm⟩

theorem isText_low {b : UInt8} (low : b.toNat < 0x80) : IsText [b] := by
  have valid : b.toNat.isValidChar := .inl (by omega)
  refine ⟨[Char.ofNatAux b.toNat valid], ?_⟩
  have low' : (Char.ofNatAux b.toNat valid).toNat < 0x80 := low
  rw [encode, List.flatMap_singleton, encodeChar_low low']
  exact congrArg (fun b => [b]) UInt8.ofNat_toNat.symm

/-- ASCII is text. -/
theorem isText_of_low (low : ∀ b ∈ data, b.toNat < 0x80) : IsText data := by
  induction data with
  | nil => exact isText_nil
  | cons b data ih =>
      obtain ⟨first, later⟩ := List.forall_mem_cons.mp low
      exact (isText_low first).append (ih later)

/-- Whether a byte can only stand in a character after its first byte. -/
def IsInner (b : UInt8) : Prop := 0x80 ≤ b.toNat ∧ b.toNat < 0xC0

/-- A character begins with a byte that is no inner one, and only inner bytes follow. -/
theorem exists_encodeChar_cons (c : Char) :
    ∃ b inner, encodeChar c = b :: inner ∧ ¬IsInner b ∧ ∀ b' ∈ inner, IsInner b' := by
  have valid := toNat_lt c
  have byte {n : Nat} (small : n < 256) : (UInt8.ofNat n).toNat = n := by
    rw [UInt8.toNat_ofNat', Nat.mod_eq_of_lt small]
  have isInner (n : Nat) : IsInner (UInt8.ofNat (0x80 + n % 64)) := by
    unfold IsInner
    rw [byte (by omega)]
    omega
  have notInner {n : Nat} (small : n < 256) (outer : n < 0x80 ∨ 0xC0 ≤ n) :
      ¬IsInner (UInt8.ofNat n) := by
    unfold IsInner
    rw [byte small]
    omega
  unfold encodeChar encodeCode
  split
  · exact ⟨_, _, rfl, notInner (by omega) (by omega), nofun⟩
  · split
    · refine ⟨_, _, rfl, notInner (by omega) (by omega), ?_⟩
      simp only [List.forall_mem_cons, isInner, true_and]
      exact nofun
    · split
      · refine ⟨_, _, rfl, notInner (by omega) (by omega), ?_⟩
        simp only [List.forall_mem_cons, isInner, true_and]
        exact nofun
      · refine ⟨_, _, rfl, notInner (by omega) (by omega), ?_⟩
        simp only [List.forall_mem_cons, isInner, true_and]
        exact nofun

theorem encode_cons (c : Char) (text : List Char) :
    encode (c :: text) = encodeChar c ++ encode text := List.flatMap_cons

/-- A text with a whole character in it is text before that character and after it. -/
theorem IsText.cut {before after : Bytes} (whole : IsText (before ++ encodeChar c ++ after)) :
    IsText before ∧ IsText after := by
  obtain ⟨text, same⟩ := whole
  rw [List.append_assoc] at same
  obtain ⟨b, inner, first, outer, -⟩ := exists_encodeChar_cons c
  induction text generalizing before with
  | nil =>
      rw [first] at same
      simp [encode] at same
  | cons c' text ih =>
      rw [encode_cons] at same
      rcases List.append_eq_append_iff.mp same with ⟨left, same', later⟩ | ⟨left, rfl, later⟩
      · cases left with
        | nil =>
            -- the first character ends where the cut is
            rw [List.append_nil] at same'
            have isText : IsText [] ∧ IsText after := ih later
            exact ⟨same' ▸ isText_encodeChar c', isText.2⟩
        | cons b' left =>
            cases before with
            | nil =>
                -- the first character is the one to cut at
                have read := decodeChar?_encodeChar c after
                rw [show encodeChar c ++ after = _ from same, decodeChar?_encodeChar] at read
                cases read
                exact ⟨isText_nil, isText_encode text⟩
            | cons b'' before =>
                -- the cut would be inside of the first character
                obtain ⟨_, inner', first', -, allInner⟩ := exists_encodeChar_cons c'
                rw [first, List.cons_append, List.cons_append, List.cons.injEq] at later
                rw [first', List.cons_append, List.cons.injEq] at same'
                have member : b ∈ inner' := by
                  rw [same'.2, later.1]
                  exact List.mem_append_right _ List.mem_cons_self
                exact absurd (allInner b member) outer
      · obtain ⟨isText, isText'⟩ := ih later.symm
        exact ⟨(isText_encodeChar c').append isText, isText'⟩

end ChatRelay.Utf8
