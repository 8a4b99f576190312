import ChatRelay.Proofs.Json.Entries
import ChatRelay.Proofs.Text.Validity

/-! # JSON is text

Every reader takes whole characters off the front of the data. Between the tokens it takes nothing
but ASCII, and the strings are checked when they are complete. A string can hide no broken character
behind an escape: what an escape stands for is a whole character, and a text that is cut before and
after one leaves texts. What is written is text too.
-/

namespace ChatRelay.Json

open Utf8 (IsText)

variable {data rest left : Bytes}

/-- Text stands in front of what is left of some data. -/
def TakesText (data rest : Bytes) : Prop := ∃ raw, data = raw ++ rest ∧ IsText raw

namespace TakesText

theorem refl (data : Bytes) : TakesText data data := ⟨[], rfl, Utf8.isText_nil⟩

theorem trans (first : TakesText data rest) (second : TakesText rest left) :
    TakesText data left := by
  obtain ⟨raw, rfl, isText⟩ := first
  obtain ⟨raw', rfl, isText'⟩ := second
  exact ⟨raw ++ raw', (List.append_assoc ..).symm, isText.append isText'⟩

theorem low {b : UInt8} (low : b.toNat < 0x80) (later : TakesText rest left) :
    TakesText (b :: rest) left :=
  trans ⟨[b], rfl, Utf8.isText_low low⟩ later

/-- What is left at the end is nothing, so all of the data is text. -/
theorem isText (takes : TakesText data []) : IsText data := by
  obtain ⟨raw, rfl, isText⟩ := takes
  rwa [List.append_nil]

theorem of_takeWhile {p : UInt8 → Bool} (low : ∀ b, p b = true → b.toNat < 0x80) (data : Bytes) :
    TakesText data (data.dropWhile p) :=
  ⟨data.takeWhile p, List.takeWhile_append_dropWhile.symm,
    Utf8.isText_of_low fun b member => low b (List.all_eq_true.mp List.all_takeWhile b member)⟩

end TakesText

theorem low_of_isBlank {b : UInt8} (blank : isBlank b = true) : b.toNat < 0x80 := by
  simp only [isBlank, Bool.or_eq_true, beq_iff_eq, or_assoc] at blank
  rcases blank with rfl | rfl | rfl | rfl <;> decide

theorem low_of_isDigit {b : UInt8} (digit : isDigit b = true) : b.toNat < 0x80 := by
  simp only [isDigit, Bool.and_eq_true, decide_eq_true_eq] at digit
  exact Nat.lt_of_le_of_lt (UInt8.le_iff_toNat_le.mp digit.2) (by decide)

theorem takes_blanks (data : Bytes) : TakesText data (skipBlanks data) :=
  .of_takeWhile (fun _ => low_of_isBlank) data

theorem takes_word {letters : List UInt8} (low : ∀ b ∈ letters, b.toNat < 0x80)
    (read : word letters data = .ok ((), rest)) : TakesText data rest := by
  induction letters generalizing data with
  | nil =>
      cases read
      exact .refl _
  | cons letter letters ih =>
      cases data with
      | nil => cases read
      | cons b data =>
          rw [word] at read
          split at read
          · next same =>
              obtain ⟨first, later⟩ := List.forall_mem_cons.mp low
              exact .low (same ▸ first) (ih later read)
          · cases read

/-! ## Strings -/

theorem hexDigit_low (x : UInt8) {d : Nat}
    (digit : Bytes.hexValue? (Char.ofNat x.toNat) = some d) : x.toNat < 0x80 ∧ d < 16 := by
  have all : ∀ n < 256, ∀ d ∈ Bytes.hexValue? (Char.ofNat n), n < 0x80 ∧ d < 16 := by
    decide +kernel
  exact all x.toNat x.toNat_lt d digit

theorem takes_hexQuad {n : Nat} (read : hexQuad data = .ok (n, rest)) :
    TakesText data rest ∧ n < 0x10000 := by
  unfold hexQuad at read
  split at read
  · next a b c d left =>
      simp only at read
      split at read
      · next x y z w isA isB isC isD =>
          cases read
          obtain ⟨lowA, smallA⟩ := hexDigit_low a isA
          obtain ⟨lowB, smallB⟩ := hexDigit_low b isB
          obtain ⟨lowC, smallC⟩ := hexDigit_low c isC
          obtain ⟨lowD, smallD⟩ := hexDigit_low d isD
          exact ⟨.low lowA (.low lowB (.low lowC (.low lowD (.refl _)))), by omega⟩
      · cases read
  · cases read

theorem takes_lowSurrogate {high n : Nat} (isHigh : 0xD800 ≤ high ∧ high ≤ 0xDBFF)
    (read : lowSurrogate high data = .ok (n, rest)) :
    TakesText data rest ∧ n.isValidChar := by
  unfold lowSurrogate at read
  split at read
  · cases read
  · next a data =>
      split at read
      · cases read
      · next backslash =>
          split at read
          · cases read
          · next b data =>
              split at read
              · cases read
              · next letter =>
                  obtain ⟨⟨low, left⟩, quad, read⟩ := of_bind read
                  simp only at read
                  split at read
                  · cases read
                  · next isLow =>
                      obtain rfl := Decidable.not_not.mp backslash
                      obtain rfl := Decidable.not_not.mp letter
                      obtain ⟨code, rfl⟩ := Prod.mk.inj (Except.ok.inj read)
                      refine ⟨.low (by decide) (.low (by decide) (takes_hexQuad quad).1),
                        .inr ?_⟩
                      omega

theorem takes_unicodeEscape {n : Nat} (read : unicodeEscape data = .ok (n, rest)) :
    TakesText data rest ∧ n.isValidChar := by
  unfold unicodeEscape at read
  obtain ⟨⟨high, left⟩, quad, read⟩ := of_bind read
  obtain ⟨takes, small⟩ := takes_hexQuad quad
  simp only at read
  split at read
  · cases read
  · next notLow =>
      split at read
      · next isHigh =>
          obtain ⟨later, valid⟩ := takes_lowSurrogate isHigh read
          exact ⟨takes.trans later, valid⟩
      · next notHigh =>
          cases read
          refine ⟨takes, ?_⟩
          unfold Nat.isValidChar
          omega

/-- An escape stands for a whole character. -/
theorem takes_escape {bytes : Bytes} (read : escape data = .ok (bytes, rest)) :
    TakesText data rest ∧ ∃ c, bytes = Utf8.encodeChar c := by
  unfold escape at read
  split at read
  · cases read
  · next b left =>
      have single {byte : UInt8} (low : b.toNat < 0x80) (c : Char) (is : [byte] = Utf8.encodeChar c)
          (read : Except.ok (([byte] : Bytes), left) = (.ok (bytes, rest) : Except Fault _)) :
          TakesText (b :: left) rest ∧ ∃ c, bytes = Utf8.encodeChar c := by
        cases read
        exact ⟨.low low (.refl _), c, is⟩
      split at read
      · next itself =>
          rcases itself with rfl | rfl | rfl
          · exact single (by decide) '"' rfl read
          · exact single (by decide) '\\' rfl read
          · exact single (by decide) '/' rfl read
      split at read
      · next letter => exact single (letter ▸ by decide) '\x08' rfl read
      split at read
      · next letter => exact single (letter ▸ by decide) '\x0c' rfl read
      split at read
      · next letter => exact single (letter ▸ by decide) '\n' rfl read
      split at read
      · next letter => exact single (letter ▸ by decide) '\r' rfl read
      split at read
      · next letter => exact single (letter ▸ by decide) '\t' rfl read
      split at read
      · next letter =>
          obtain ⟨⟨n, left'⟩, code, read⟩ := of_bind read
          cases read
          obtain ⟨takes, valid⟩ := takes_unicodeEscape code
          exact ⟨.low (letter ▸ by decide) takes, Char.ofNatAux n valid, rfl⟩
      · cases read

/-- If the bytes of a whole string are text, so is what the string is written as, together with the
    bytes that were seen before. -/
theorem takes_stringBytes {fuel : Nat} {seen bytes : Bytes} (isText : IsText bytes)
    (read : stringBytes fuel seen data = .ok (bytes, rest)) :
    ∃ raw, data = raw ++ rest ∧ IsText (seen.reverse ++ raw) := by
  induction fuel generalizing seen data with
  | zero => cases read
  | succ fuel ih =>
      cases data with
      | nil => cases read
      | cons b data =>
          rw [stringBytes] at read
          split at read
          · next quote =>
              cases read
              exact ⟨[b], rfl, isText.append (Utf8.isText_low (quote ▸ by decide))⟩
          · split at read
            · next backslash =>
                obtain ⟨⟨bytes', left⟩, escaped, read⟩ := of_bind read
                obtain ⟨⟨raw, rfl, isRaw⟩, c, rfl⟩ := takes_escape escaped
                obtain ⟨raw', rfl, whole⟩ := ih read
                -- the escape is between two texts, and is replaced by what it is written as
                rw [List.reverse_append, List.reverse_reverse] at whole
                obtain ⟨before, after⟩ := whole.cut
                have slash : IsText [b] := Utf8.isText_low (backslash ▸ by decide)
                refine ⟨b :: (raw ++ raw'), by simp, ?_⟩
                exact before.append (slash.append (isRaw.append after))
            · split at read
              · cases read
              · obtain ⟨raw, rfl, whole⟩ := ih read
                refine ⟨b :: raw, rfl, ?_⟩
                rwa [List.reverse_cons, List.append_assoc] at whole

theorem takes_string {text : String} (read : string data = .ok (text, rest)) :
    TakesText data rest := by
  unfold string at read
  obtain ⟨⟨bytes, left⟩, all, read⟩ := of_bind read
  simp only at read
  split at read
  · next text' isText =>
      cases read
      rw [Utf8.toString?_eq_some_iff] at isText
      exact takes_stringBytes (isText ▸ Utf8.isText_ofString text) all
  · cases read

/-! ## Numbers -/

section Numbers

variable {negative down : Bool} {significand dropped : Nat} {start : Int} {n : Number}

theorem takes_digits (data : Bytes) : TakesText data (digits data).2 :=
  .of_takeWhile (fun _ => low_of_isDigit) data

theorem rest_of_map {outcome : Except Fault Number}
    (read : outcome.map (·, data) = .ok (n, rest)) : TakesText data rest := by
  cases outcome with
  | error fault => cases read
  | ok m =>
      cases read
      exact .refl data

theorem takes_exponentDigits
    (read : exponentDigits negative significand start down data = .ok (n, rest)) :
    TakesText data rest := by
  have takes := takes_digits data
  unfold exponentDigits at read
  split at read
  · cases read
  · split at read
    · cases read
    · simp only at read
      split at read
      · exact takes.trans (rest_of_map read)
      · split at read
        · cases read
        · cases read
          exact takes

theorem takes_exponentPart
    (read : exponentPart negative significand start data = .ok (n, rest)) :
    TakesText data rest := by
  cases data with
  | nil => cases read
  | cons b data =>
      rw [exponentPart_cons] at read
      split at read
      · next plus => exact .low (plus ▸ by decide) (takes_exponentDigits read)
      · split at read
        · next minus => exact .low (minus ▸ by decide) (takes_exponentDigits read)
        · exact takes_exponentDigits read

theorem takes_realEnd (read : realEnd negative significand start data = .ok (n, rest)) :
    TakesText data rest := by
  unfold realEnd at read
  split at read
  · exact .low (by decide) (takes_exponentPart read)
  · exact .low (by decide) (takes_exponentPart read)
  · exact rest_of_map read

theorem takes_fraction (read : fraction negative significand start data = .ok (n, rest)) :
    TakesText data rest := by
  have takes := takes_digits data
  unfold fraction at read
  split at read
  · cases read
  · split at read
    · cases read
    · exact takes.trans (takes_realEnd read)

theorem takes_numberEnd (read : numberEnd negative significand dropped data = .ok (n, rest)) :
    TakesText data rest := by
  cases data with
  | nil =>
      rw [numberEnd_of_stops .nil] at read
      exact rest_of_map read
  | cons b data =>
      rw [numberEnd_cons] at read
      split at read
      · next point => exact .low (point ▸ by decide) (takes_fraction read)
      · split at read
        · next letter =>
            refine .low ?_ (takes_exponentPart read)
            rcases letter with rfl | rfl <;> decide
        · exact rest_of_map read

theorem takes_number (read : number negative data = .ok (n, rest)) : TakesText data rest := by
  have takes := takes_digits data
  unfold number at read
  split at read
  · cases read
  · next d left =>
      split at read
      · cases read
      · split at read
        · next zero =>
            have low : d.toNat < 0x80 := zero ▸ by decide
            split at read
            · split at read
              · cases read
              · exact .low low (takes_numberEnd read)
            · exact .low low (takes_numberEnd read)
        · exact takes.trans (takes_numberEnd read)

end Numbers

/-! ## Values -/

/-- What a step to the next item leaves. -/
def Next.remaining : Next → Bytes
  | .done rest => rest
  | .more rest => rest

theorem takes_next {close : UInt8} {first : Bool} {found : Next} (ascii : close.toNat < 0x80)
    (read : next close first data = .ok found) : TakesText data found.remaining := by
  have blanks := takes_blanks data
  unfold next at read
  split at read
  · cases read
  · next b left same =>
      rw [same] at blanks
      split at read
      · next closed =>
          cases read
          exact blanks.trans (.low (closed ▸ ascii) (.refl _))
      · split at read
        · cases read
          exact blanks
        · split at read
          · cases read
          · next comma =>
              obtain rfl := Decidable.not_not.mp comma
              have more := takes_blanks left
              split at read
              · cases read
              · next c left' same' =>
                  rw [same'] at more
                  split at read
                  · cases read
                  · cases read
                    exact blanks.trans (.low (by decide) more)

theorem takes_colon (read : colon data = .ok ((), rest)) : TakesText data rest := by
  have blanks := takes_blanks data
  unfold colon at read
  split at read
  · cases read
  · next b left same =>
      rw [same] at blanks
      split at read
      · next isColon =>
          cases read
          exact blanks.trans (.low (isColon ▸ by decide) (.refl _))
      · cases read

section Lists

variable {α : Type}

theorem takes_items {item : Reader α}
    (each : ∀ {data x rest}, item data = .ok (x, rest) → TakesText data rest) {fuel : Nat}
    {first : Bool} {xs : List α} (read : items item fuel first data = .ok (xs, rest)) :
    TakesText data rest := by
  induction fuel generalizing first data xs with
  | zero => cases read
  | succ fuel ih =>
      rw [items] at read
      obtain ⟨found, step, read⟩ := of_bind read
      have takes := takes_next (by decide) step
      cases found with
      | done left =>
          cases read
          exact takes
      | more left =>
          obtain ⟨⟨x, left⟩, one, read⟩ := of_bind read
          obtain ⟨⟨xs, left⟩, others, read⟩ := of_bind read
          cases read
          exact takes.trans ((each one).trans (ih others))

theorem takes_fields {field : String → α → Reader α}
    (each : ∀ {name acc data next rest}, field name acc data = .ok (next, rest) →
      TakesText data rest)
    {fuel : Nat} {first : Bool} {acc last : α}
    (read : fields field fuel first acc data = .ok (last, rest)) : TakesText data rest := by
  induction fuel generalizing first acc data with
  | zero => cases read
  | succ fuel ih =>
      rw [fields] at read
      obtain ⟨found, step, read⟩ := of_bind read
      have takes := takes_next (by decide) step
      cases found with
      | done left =>
          cases read
          exact takes
      | more left =>
          simp only at read
          split at read
          · obtain ⟨⟨name, left⟩, named, read⟩ := of_bind read
            obtain ⟨⟨acc, left⟩, one, read⟩ := of_bind read
            exact takes.trans (.low (by decide) ((takes_string named).trans
              ((each one).trans (ih read))))
          · cases read

end Lists

theorem takes_value {depth : Nat} {v : Value} (read : value depth data = .ok (v, rest)) :
    TakesText data rest := by
  induction depth using Nat.strongRecOn generalizing data v rest with
  | ind depth ih =>
      have blanks := takes_blanks data
      rw [value] at read
      split at read
      · cases read
      next b left same =>
      rw [same] at blanks
      refine blanks.trans ?_
      -- a word, whose first letter says which it is
      have named {letter : UInt8} {letters : List UInt8} {v' : Value} (is : b = letter)
          (low : (letter :: letters).all (·.toNat < 0x80) = true)
          (read : (word letters left >>= fun read => Except.ok (v', read.2)) = .ok (v, rest)) :
          TakesText (b :: left) rest := by
        have each : ∀ l ∈ letter :: letters, l.toNat < 0x80 := by simpa using low
        obtain ⟨first, later⟩ := List.forall_mem_cons.mp each
        obtain ⟨⟨⟨⟩, left'⟩, taken, read⟩ := of_bind read
        cases read
        exact .low (is ▸ first) (takes_word later taken)
      split at read
      · next is => exact named is (by decide) read
      split at read
      · next is => exact named is (by decide) read
      split at read
      · next is => exact named is (by decide) read
      split at read
      · next minus =>
          obtain ⟨⟨n, left'⟩, one, read⟩ := of_bind read
          cases read
          exact .low (minus ▸ by decide) (takes_number one)
      split at read
      · obtain ⟨⟨n, left'⟩, one, read⟩ := of_bind read
        cases read
        exact takes_number one
      split at read
      · next quote =>
          obtain ⟨⟨text, left'⟩, one, read⟩ := of_bind read
          cases read
          exact .low (quote ▸ by decide) (takes_string one)
      split at read
      · next bracket =>
          cases depth with
          | zero => cases read
          | succ depth =>
              obtain ⟨⟨xs, left'⟩, all, read⟩ := of_bind read
              cases read
              exact .low (bracket ▸ by decide)
                (takes_items (fun one => ih depth (Nat.lt_succ_self depth) one) all)
      split at read
      · next brace =>
          cases depth with
          | zero => cases read
          | succ depth =>
              obtain ⟨⟨fs, left'⟩, all, read⟩ := of_bind read
              cases read
              refine .low (brace ▸ by decide) (takes_fields ?_ all)
              intro name acc data next rest read
              obtain ⟨⟨_, left⟩, colon, read⟩ := of_bind read
              obtain ⟨⟨x, left⟩, one, read⟩ := of_bind read
              cases read
              exact (takes_colon colon).trans (ih depth (Nat.lt_succ_self depth) one)
      · cases read

/-- A document is text if its reader takes text. -/
theorem isText_of_document {α : Type} {read : Reader α} {x : α}
    (takes : ∀ {rest}, read data = .ok (x, rest) → TakesText data rest)
    (done : document read data = .ok x) : IsText data := by
  obtain ⟨rest, begun, ended⟩ := document_eq_ok_iff.mp done
  have blanks := takes_blanks rest
  rw [ended] at blanks
  exact ((takes begun).trans blanks).isText

/-! ## What is written -/

theorem isText_printChar (c : Char) : IsText (printChar c) := by
  rcases printChar_cases c with ⟨plain, -⟩ | ⟨tail, escaped, reads⟩
  · rw [plain]
    exact Utf8.isText_encodeChar c
  · have takes := (takes_escape (reads [])).1
    rw [List.append_nil] at takes
    rw [escaped]
    exact (Utf8.isText_low (by decide)).append takes.isText

theorem isText_printString (text : String) : IsText (printString text) := by
  have quote : IsText [0x22] := Utf8.isText_low (by decide)
  have inside (characters : List Char) : IsText (characters.flatMap printChar) := by
    induction characters with
    | nil => exact Utf8.isText_nil
    | cons c characters ih =>
        rw [List.flatMap_cons]
        exact (isText_printChar c).append ih
  exact quote.append ((inside text.toList).append quote)

theorem isText_listed {parts : List Bytes} (each : ∀ part ∈ parts, IsText part) (first : Bool) :
    IsText (listed first parts) := by
  induction parts generalizing first with
  | nil =>
      rw [listed_nil]
      exact Utf8.isText_nil
  | cons part parts ih =>
      obtain ⟨one, others⟩ := List.forall_mem_cons.mp each
      have separator : IsText (comma first) := by
        cases first with
        | true => exact Utf8.isText_nil
        | false => exact Utf8.isText_low (by decide)
      rw [listed_cons]
      exact separator.append (one.append (ih others false))

theorem isText_printNumber (n : Number) : IsText (printNumber n) := by
  cases n with
  | integer n =>
      have sign : IsText (if n < 0 then [0x2D] else []) := by
        split
        · exact Utf8.isText_low (by decide)
        · exact Utf8.isText_nil
      exact sign.append (Utf8.isText_encode _)
  | real x => exact Utf8.isText_encode _

theorem isText_bracketed {opening close : UInt8} {inside : Bytes}
    (ascii : opening.toNat < 0x80 ∧ close.toNat < 0x80) (isText : IsText inside) :
    IsText (opening :: inside ++ [close]) :=
  (Utf8.isText_low ascii.1).append (isText.append (Utf8.isText_low ascii.2))

mutual

/-- Every value is written as text. -/
theorem isText_print (v : Value) : IsText (print v) := by
  cases v with
  | null =>
      rw [print]
      exact Utf8.isText_encode _
  | bool b =>
      cases b with
      | true =>
          rw [print]
          exact Utf8.isText_encode _
      | false =>
          rw [print]
          exact Utf8.isText_encode _
  | number n =>
      rw [print]
      exact isText_printNumber n
  | string text =>
      rw [print]
      exact isText_printString text
  | array xs =>
      rw [print]
      exact isText_bracketed (by decide) (isText_listed (isText_printItems xs) true)
  | object fs =>
      rw [print]
      exact isText_bracketed (by decide) (isText_listed (isText_printFields fs) true)

theorem isText_printItems (xs : List Value) : ∀ part ∈ printItems xs, IsText part := by
  cases xs with
  | nil =>
      rw [printItems]
      exact nofun
  | cons x xs =>
      rw [printItems]
      exact List.forall_mem_cons.mpr ⟨isText_print x, isText_printItems xs⟩

theorem isText_printFields (fs : List (String × Value)) :
    ∀ part ∈ printFields fs, IsText part := by
  cases fs with
  | nil =>
      rw [printFields]
      exact nofun
  | cons field fs =>
      obtain ⟨name, x⟩ := field
      rw [printFields]
      have colon : IsText [0x3A] := Utf8.isText_low (by decide)
      exact List.forall_mem_cons.mpr
        ⟨(isText_printString name).append (colon.append (isText_print x)), isText_printFields fs⟩

end

end ChatRelay.Json
