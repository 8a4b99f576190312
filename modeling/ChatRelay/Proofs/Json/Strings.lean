import ChatRelay.Json.Printer
import ChatRelay.Json.Reader
import ChatRelay.Proofs.Text.RoundTrip

/-! # Strings of JSON come back

What the printer writes between two quotes is read as the text that it was, whatever comes after the
second quote.
-/

namespace ChatRelay.Json

theorem skipBlanks_cons {b : UInt8} (visible : isBlank b = false) (rest : Bytes) :
    skipBlanks (b :: rest) = b :: rest := by
  rw [skipBlanks, List.dropWhile_cons_of_neg (by rw [visible]; decide)]

theorem word_append (letters rest : Bytes) : word letters (letters ++ rest) = .ok ((), rest) := by
  induction letters with
  | nil => rfl
  | cons letter letters ih => simpa only [List.cons_append, word, if_true] using ih

/-- A byte that stands for itself inside a string. -/
def isPlain (b : UInt8) : Bool := b != 0x22 && b != 0x5C && 0x20 ≤ b

theorem stringBytes_plain {bytes : Bytes} (plain : ∀ b ∈ bytes, isPlain b = true) (fuel : Nat)
    (seen rest : Bytes) : stringBytes (bytes.length + fuel) seen (bytes ++ rest) =
      stringBytes fuel (bytes.reverse ++ seen) rest := by
  induction bytes generalizing seen with
  | nil => rw [List.length_nil, Nat.zero_add]; rfl
  | cons b bytes ih =>
      have here := plain b List.mem_cons_self
      simp only [isPlain, Bool.and_eq_true, bne_iff_ne, decide_eq_true_eq] at here
      obtain ⟨⟨quote, backslash⟩, printable⟩ := here
      have one : (b :: bytes).length + fuel = bytes.length + fuel + 1 := by
        rw [List.length_cons]
        omega
      have low : ¬b < 0x20 := UInt8.not_lt.mpr printable
      rw [one, List.cons_append, stringBytes, if_neg quote, if_neg backslash, if_neg low,
        ih fun b member => plain b (List.mem_cons_of_mem _ member)]
      rw [List.reverse_cons, List.append_assoc, List.singleton_append]

/-- The characters that the printer does not escape are written with plain bytes. -/
theorem isPlain_encodeChar {c : Char} (quote : c ≠ '"') (backslash : c ≠ '\\')
    (printable : 0x20 ≤ c.toNat) : ∀ b ∈ Utf8.encodeChar c, isPlain b = true := by
  have apart {code : Char} (other : c ≠ code) : c.toNat ≠ code.toNat := fun same =>
    other (Char.toNat_inj.mp same)
  intro b member
  simp only [isPlain, Bool.and_eq_true, bne_iff_ne, ne_eq, decide_eq_true_eq,
    UInt8.le_iff_toNat_le, ← UInt8.toNat_inj]
  rcases Utf8.mem_encodeChar member with high | ⟨low, rfl⟩
  · refine ⟨⟨?_, ?_⟩, Nat.le_trans (by decide) high⟩
    · exact Nat.ne_of_gt (Nat.lt_of_lt_of_le (by decide) high)
    · exact Nat.ne_of_gt (Nat.lt_of_lt_of_le (by decide) high)
  · rw [UInt8.toNat_ofNat', Nat.mod_eq_of_lt (by omega)]
    exact ⟨⟨apart quote, apart backslash⟩, printable⟩

theorem hexDigit_byte : ∀ n < 16,
    Utf8.encodeChar (Bytes.hexDigit n) = [UInt8.ofNat (Bytes.hexDigit n).toNat] ∧
      Bytes.hexValue? (Char.ofNat (UInt8.ofNat (Bytes.hexDigit n).toNat).toNat) = some n := by
  decide

/-- A control character is read from the two last of its four digits. -/
theorem unicodeEscape_control {n : Nat} (control : n < 0x20) (rest : Bytes) :
    unicodeEscape (0x30 :: 0x30 ::
      (Utf8.encode [Bytes.hexDigit (n / 16), Bytes.hexDigit (n % 16)] ++ rest)) =
        .ok (n, rest) := by
  obtain ⟨high, highValue⟩ := hexDigit_byte (n / 16) (by omega)
  obtain ⟨low, lowValue⟩ := hexDigit_byte (n % 16) (by omega)
  have zero : Bytes.hexValue? (Char.ofNat (0x30 : UInt8).toNat) = some 0 := by decide
  have sum : ((0 * 16 + 0) * 16 + n / 16) * 16 + n % 16 = n := by omega
  have digits : Utf8.encode [Bytes.hexDigit (n / 16), Bytes.hexDigit (n % 16)] =
      [UInt8.ofNat (Bytes.hexDigit (n / 16)).toNat,
        UInt8.ofNat (Bytes.hexDigit (n % 16)).toNat] := by
    simp only [Utf8.encode, List.flatMap_cons, List.flatMap_nil, high, low, List.append_nil,
      List.singleton_append]
  have quad : hexQuad (0x30 :: 0x30 :: UInt8.ofNat (Bytes.hexDigit (n / 16)).toNat ::
      UInt8.ofNat (Bytes.hexDigit (n % 16)).toNat :: rest) = .ok (n, rest) := by
    simp only [hexQuad, zero, highValue, lowValue, sum]
  rw [digits, List.cons_append, List.cons_append, List.nil_append, unicodeEscape, quad]
  change (if 0xDC00 ≤ n ∧ n ≤ 0xDFFF then _ else _) = _
  rw [if_neg (by omega), if_neg (by omega)]

/-- Every character is either written as it is or as an escape that stands for it. -/
theorem printChar_cases (c : Char) :
    (printChar c = Utf8.encodeChar c ∧ ∀ b ∈ Utf8.encodeChar c, isPlain b = true) ∨
      ∃ tail, printChar c = 0x5C :: tail ∧
        ∀ rest, escape (tail ++ rest) = .ok (Utf8.encodeChar c, rest) := by
  have code {n : Nat} (is : c.toNat = n) : Utf8.encodeChar c = Utf8.encodeCode n := by
    rw [Utf8.encodeChar, is]
  unfold printChar
  split
  · next quote =>
      subst quote
      exact .inr ⟨[0x22], rfl, fun _ => rfl⟩
  split
  · next backslash =>
      subst backslash
      exact .inr ⟨[0x5C], rfl, fun _ => rfl⟩
  split
  · next backspace => exact .inr ⟨[0x62], rfl, fun _ => by rw [code backspace]; rfl⟩
  split
  · next tab => exact .inr ⟨[0x74], rfl, fun _ => by rw [code tab]; rfl⟩
  split
  · next newline => exact .inr ⟨[0x6E], rfl, fun _ => by rw [code newline]; rfl⟩
  split
  · next formFeed => exact .inr ⟨[0x66], rfl, fun _ => by rw [code formFeed]; rfl⟩
  split
  · next carriage => exact .inr ⟨[0x72], rfl, fun _ => by rw [code carriage]; rfl⟩
  split
  · next control =>
      refine .inr ⟨_, rfl, fun rest => ?_⟩
      exact congrArg (· >>= fun read => Except.ok (Utf8.encodeCode read.1, read.2))
        (unicodeEscape_control control rest)
  · next quote backslash _ _ _ _ _ printable =>
      exact .inl ⟨rfl, isPlain_encodeChar quote backslash (Nat.not_lt.mp printable)⟩

theorem stringBytes_printed (text : List Char) {fuel : Nat}
    (enough : (text.flatMap printChar).length < fuel) (seen rest : Bytes) :
    stringBytes fuel seen (text.flatMap printChar ++ 0x22 :: rest) =
      .ok (seen.reverse ++ Utf8.encode text, rest) := by
  induction text generalizing fuel seen with
  | nil =>
      obtain ⟨fuel, rfl⟩ := Nat.exists_eq_add_one_of_ne_zero (Nat.ne_zero_of_lt enough)
      simp [stringBytes, Utf8.encode]
  | cons c text ih =>
      rw [List.flatMap_cons, List.length_append] at enough
      have whole : Utf8.encode (c :: text) = Utf8.encodeChar c ++ Utf8.encode text :=
        List.flatMap_cons
      rw [List.flatMap_cons, List.append_assoc, whole]
      rcases printChar_cases c with ⟨asIs, plain⟩ | ⟨tail, escaped, stands⟩
      · rw [asIs] at enough ⊢
        obtain ⟨more, rfl⟩ := Nat.exists_eq_add_of_lt enough
        have split : (Utf8.encodeChar c).length + (text.flatMap printChar).length + more + 1 =
            (Utf8.encodeChar c).length + ((text.flatMap printChar).length + more + 1) := by
          omega
        rw [split, stringBytes_plain plain, ih (by omega), List.reverse_append,
          List.reverse_reverse, List.append_assoc]
      · obtain ⟨fuel, rfl⟩ := Nat.exists_eq_add_one_of_ne_zero (Nat.ne_zero_of_lt enough)
        rw [escaped] at enough ⊢
        rw [List.cons_append, stringBytes, if_neg (by decide), if_pos rfl, stands]
        change stringBytes fuel _ _ = _
        rw [ih (by simp only [List.length_cons] at enough; omega), List.reverse_append,
          List.reverse_reverse, List.append_assoc]

/-- A printed string is read back. -/
theorem string_printed (text : String) (rest : Bytes) :
    string (text.toList.flatMap printChar ++ 0x22 :: rest) = .ok (text, rest) := by
  have enough : (text.toList.flatMap printChar).length <
      (text.toList.flatMap printChar ++ 0x22 :: rest).length := by
    rw [List.length_append, List.length_cons]
    omega
  have bytes := stringBytes_printed text.toList enough [] rest
  have valid : Utf8.toString? (Utf8.encode text.toList) = some text :=
    Utf8.toString?_ofString text
  rw [string, bytes]
  simp only [bind, Except.bind, List.reverse_nil, List.nil_append, valid]

theorem printString_append (text : String) (rest : Bytes) :
    printString text ++ rest = 0x22 :: (text.toList.flatMap printChar ++ 0x22 :: rest) := by
  rw [printString, List.append_assoc, List.cons_append, List.singleton_append]

end ChatRelay.Json
