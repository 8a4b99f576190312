import ChatRelay.Redis.Glob

/-! # What channel patterns stand for

A pattern without special bytes, but for a star at its end, stands for all texts that begin with
what is before the star. A pattern with a special byte before its last star never does so: if it
stands for the text before that star at all, some byte of that text may as well be any other one.
-/

namespace ChatRelay.Redis.Glob

/-- The bytes with a meaning of their own: the star, the question mark, the opening bracket and the
    backslash. -/
def specials : List UInt8 := [0x2A, 0x3F, 0x5B, 0x5C]

/-! ## Patterns that stand for what begins like them -/

theorem items_cons {b : UInt8} (plain : b ∉ specials) (rest : Bytes) :
    items (b :: rest) = .exact b :: items rest := by
  simp only [specials, List.mem_cons, List.not_mem_nil, or_false, not_or] at plain
  obtain ⟨star, mark, bracket, backslash⟩ := plain
  rw [items]
  all_goals simp_all

theorem items_append {bytes : Bytes} (plain : ∀ b ∈ bytes, b ∉ specials) (rest : Bytes) :
    items (bytes ++ rest) = bytes.map .exact ++ items rest := by
  induction bytes with
  | nil => rfl
  | cons b bytes ih =>
      obtain ⟨first, later⟩ := List.forall_mem_cons.mp plain
      rw [List.cons_append, items_cons first, ih later]
      rfl

theorem fits_cons {item : GlobItem} (single : item ≠ .anything) (items : List GlobItem)
    (byte : UInt8) (text : Bytes) :
    fits (item :: items) (byte :: text) = (stands item byte && fits items text) := by
  rw [fits]
  exact single

theorem fits_exact {b : UInt8} {items : List GlobItem} {text : Bytes} :
    fits (.exact b :: items) text = true ↔ ∃ rest, text = b :: rest ∧ fits items rest = true := by
  cases text with
  | nil => simp [fits]
  | cons byte text =>
      rw [fits_cons (by simp), stands, Bool.and_eq_true, beq_iff_eq]
      constructor
      · rintro ⟨rfl, fit⟩
        exact ⟨text, rfl, fit⟩
      · rintro ⟨rest, same, fit⟩
        cases same
        exact ⟨rfl, fit⟩

theorem fits_literal {bytes : Bytes} {items : List GlobItem} {text : Bytes} :
    fits (bytes.map .exact ++ items) text = true ↔
      ∃ rest, text = bytes ++ rest ∧ fits items rest = true := by
  induction bytes generalizing text with
  | nil => simp
  | cons b bytes ih =>
      rw [List.map_cons, List.cons_append, fits_exact]
      constructor
      · rintro ⟨left, rfl, fit⟩
        obtain ⟨rest, rfl, fit'⟩ := ih.mp fit
        exact ⟨rest, rfl, fit'⟩
      · rintro ⟨rest, rfl, fit⟩
        exact ⟨bytes ++ rest, rfl, ih.mpr ⟨rest, rfl, fit⟩⟩

/-- A star stands for more if it stands for less. -/
theorem fits_star_cons {items : List GlobItem} {text : Bytes}
    (fit : fits (.anything :: items) text = true) (byte : UInt8) :
    fits (.anything :: items) (byte :: text) = true := by
  rw [fits, fit, Bool.or_true]

theorem fits_star (text : Bytes) : fits [.anything] text = true := by
  induction text with
  | nil => simp [fits]
  | cons byte text ih => exact fits_star_cons ih byte

theorem matchesText_literal {bytes text : Bytes} (plain : ∀ b ∈ bytes, b ∉ specials) :
    matchesText (bytes ++ [0x2A]) text = true ↔ bytes <+: text := by
  have star : items [0x2A] = [.anything] := by simp [items]
  rw [matchesText, items_append plain, star, fits_literal]
  constructor
  · rintro ⟨rest, rfl, -⟩
    exact List.prefix_append _ _
  · rintro ⟨rest, rfl⟩
    exact ⟨rest, rfl, fits_star rest⟩

/-! ## Patterns that do not -/

/-- The number of elements that stand for one byte each. -/
def singles (items : List GlobItem) : Nat := items.countP (· ≠ .anything)

theorem singles_star (items : List GlobItem) : singles (.anything :: items) = singles items := by
  simp [singles]

theorem singles_cons {item : GlobItem} (single : item ≠ .anything) (items : List GlobItem) :
    singles (item :: items) = singles items + 1 := by
  simp [singles, single]

/-- A text of `before`, some byte and `after` may as well have any other byte in between. -/
def Loose (items : List GlobItem) (text : Bytes) : Prop :=
  ∃ before byte after, text = before ++ byte :: after ∧
    ∀ other, fits items (before ++ other :: after) = true

theorem Loose.cons {item : GlobItem} {items : List GlobItem} {byte : UInt8} {text : Bytes}
    (loose : Loose items text) (single : item ≠ .anything) (fit : stands item byte = true) :
    Loose (item :: items) (byte :: text) := by
  obtain ⟨before, loosened, after, rfl, fits'⟩ := loose
  refine ⟨byte :: before, loosened, after, rfl, fun other => ?_⟩
  rw [List.cons_append, fits_cons single, fit, fits' other]
  rfl

theorem Loose.star {items : List GlobItem} {text : Bytes} (loose : Loose items text) :
    Loose (.anything :: items) text := by
  obtain ⟨before, loosened, after, rfl, fits'⟩ := loose
  refine ⟨before, loosened, after, rfl, fun other => ?_⟩
  cases before with
  | nil => rw [List.nil_append, fits, ← List.nil_append (other :: after), fits' other]; rfl
  | cons byte before => rw [List.cons_append, fits, ← List.cons_append, fits' other]; rfl

/-- A text with more bytes than single elements has one that a star stands for. -/
theorem loose_of_singles_lt {items : List GlobItem} {text : Bytes} (fit : fits items text = true)
    (more : singles items < text.length) : Loose items text := by
  fun_induction fits items text with
  | case1 text =>
      rw [List.isEmpty_iff.mp fit] at more
      cases more
  | case2 items ih => cases more
  | case3 items byte text ih ih' =>
      rw [Bool.or_eq_true] at fit
      rcases fit with none | some
      · exact (ih none (singles_star items ▸ more)).star
      · exact ⟨[], byte, text, rfl, fits_star_cons some⟩
  | case4 => cases more
  | case5 item items byte text single ih =>
      rw [Bool.and_eq_true] at fit
      rw [singles_cons single items, List.length_cons] at more
      exact (ih fit.2 (by omega)).cons single fit.1

/-! ## Counting the elements of a pattern -/

theorem singles_cons_le (item : GlobItem) (items : List GlobItem) :
    singles (item :: items) ≤ singles items + 1 := by
  by_cases single : item = .anything
  · rw [single, singles_star]
    exact Nat.le_succ _
  · exact Nat.le_of_eq (singles_cons single items)

/-- A class takes up a byte at least, if there is one. -/
theorem classRanges_suffix (pattern : Bytes) : (classRanges pattern).2 <:+ pattern.tail := by
  fun_induction classRanges pattern with
  | case1 rest => exact List.suffix_rfl
  | case2 b rest _ left read ih =>
      rw [read] at ih
      exact (ih.trans (List.tail_suffix rest)).trans (List.suffix_cons b rest)
  | case3 a b rest _ _ _ left read ih =>
      rw [read] at ih
      exact (ih.trans (List.tail_suffix rest)).trans (List.suffix_append [0x2D, b] rest)
  | case4 b rest _ _ _ _ left read ih =>
      rw [read] at ih
      exact ih.trans (List.tail_suffix rest)
  | case5 => exact List.suffix_rfl

theorem singles_items_le (pattern : Bytes) : singles (items pattern) ≤ pattern.length := by
  fun_induction items pattern with
  | case1 => exact Nat.le_refl 0
  | case2 rest ih | case3 rest ih | case6 b rest ih | case7 b rest _ _ _ _ _ ih =>
      refine Nat.le_trans (singles_cons_le ..) ?_
      simp only [List.length_cons]
      omega
  | case4 rest shorter ih | case5 rest _ shorter ih =>
      refine Nat.le_trans (singles_cons_le ..) ?_
      simp only [List.length_cons]
      omega

/-- A star at the end stands for no single byte, or it is part of an element of several bytes. -/
theorem singles_items_lt {pattern : Bytes} (ends : [0x2A] <:+ pattern) :
    singles (items pattern) < pattern.length := by
  fun_induction items pattern with
  | case1 => cases List.suffix_nil.mp ends
  | case2 rest ih =>
      rw [singles_star]
      exact Nat.lt_succ_of_le (singles_items_le rest)
  | case4 rest shorter ih =>
      have := singles_items_le (classRanges rest).2
      refine Nat.lt_of_le_of_lt (singles_cons_le ..) ?_
      simp only [List.length_cons]
      omega
  | case5 rest _ shorter ih =>
      have := singles_items_le (classRanges rest).2
      have := (classRanges_suffix rest).length_le
      rcases List.suffix_cons_iff.mp ends with same | ends
      · cases same
      · have := ends.length_le
        refine Nat.lt_of_le_of_lt (singles_cons_le ..) ?_
        simp only [List.length_cons, List.length_tail, List.length_nil] at *
        omega
  | case6 b rest ih =>
      have := singles_items_le rest
      refine Nat.lt_of_le_of_lt (singles_cons_le ..) ?_
      simp only [List.length_cons]
      omega
  | case3 rest ih =>
      rcases List.suffix_cons_iff.mp ends with same | ends
      · cases same
      · exact Nat.lt_of_le_of_lt (singles_cons_le ..) (Nat.succ_lt_succ (ih ends))
  | case7 b rest star _ _ _ _ ih =>
      rcases List.suffix_cons_iff.mp ends with same | ends
      · cases same
        exact absurd rfl star
      · exact Nat.lt_of_le_of_lt (singles_cons_le ..) (Nat.succ_lt_succ (ih ends))

theorem singles_items_suffix_lt {left pattern : Bytes} (ends : [0x2A] <:+ pattern)
    (within : left <:+ pattern) : singles (items left) < pattern.length := by
  cases left with
  | nil =>
      rw [items]
      exact ends.length_le
  | cons b left =>
      have ends' : [0x2A] <:+ b :: left :=
        List.suffix_of_suffix_length_le ends within (Nat.succ_le_succ (Nat.zero_le _))
      exact Nat.lt_of_lt_of_le (singles_items_lt ends') within.length_le

/-- With a bracket or a backslash there begins an element of several bytes. -/
theorem singles_items_begun {c b : UInt8} (begun : c = 0x5B ∨ c = 0x5C) {rest : Bytes}
    (ends : [0x2A] <:+ rest) : singles (items (c :: b :: rest)) ≤ rest.length := by
  obtain ⟨item, left, read, within⟩ :
      ∃ item left, items (c :: b :: rest) = item :: items left ∧ left <:+ rest := by
    rcases begun with rfl | rfl
    · by_cases negated : b = 0x5E
      · subst negated
        exact ⟨_, _, by rw [items], (classRanges_suffix rest).trans (List.tail_suffix rest)⟩
      · refine ⟨.oneOf false (classRanges (b :: rest)).1, _, ?_, classRanges_suffix (b :: rest)⟩
        rw [items]
        rintro _ ⟨⟩
        exact negated rfl
    · exact ⟨_, _, by rw [items], List.suffix_rfl⟩
  rw [read]
  exact Nat.le_trans (singles_cons_le item _) (singles_items_suffix_lt ends within)

/-- A pattern that ends in a star and has a special byte before is loose about what is before. -/
theorem loose_of_special {bytes : Bytes} (special : ∃ b ∈ bytes, b ∈ specials)
    (fit : fits (items (bytes ++ [0x2A])) bytes = true) :
    Loose (items (bytes ++ [0x2A])) bytes := by
  induction bytes with
  | nil => simp at special
  | cons c bytes ih =>
      have ends := List.suffix_append bytes [0x2A]
      rw [List.cons_append] at fit ⊢
      by_cases here : c ∈ specials
      · simp only [specials, List.mem_cons, List.not_mem_nil, or_false] at here
        rcases here with rfl | rfl | begun
        · apply loose_of_singles_lt fit
          rw [items, singles_star]
          simpa using singles_items_lt ends
        · rw [items, fits_cons (by simp), Bool.and_eq_true] at fit
          refine ⟨[], _, bytes, rfl, fun other => ?_⟩
          rw [items, List.nil_append, fits_cons (by simp), fit.2]
          rfl
        · cases bytes with
          | nil =>
              -- The element takes up the star, and the text is not a star.
              exfalso
              revert fit
              rcases begun with rfl | rfl <;> decide +kernel
          | cons b bytes =>
              -- Two bytes at least make one element, so that some star stands for a byte.
              have ends := List.suffix_append bytes [0x2A]
              apply loose_of_singles_lt fit
              simpa [Nat.lt_succ_iff] using singles_items_begun begun ends (b := b)
      · rw [items_cons here] at fit ⊢
        obtain ⟨_, same, fit⟩ := fits_exact.mp fit
        cases same
        have special' : ∃ b ∈ bytes, b ∈ specials := by
          obtain ⟨b, member, is⟩ := special
          rcases List.mem_cons.mp member with rfl | later
          · exact absurd is here
          · exact ⟨b, later, is⟩
        exact (ih special' fit).cons (by simp) (by simp [stands])

end ChatRelay.Redis.Glob
