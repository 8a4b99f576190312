import ChatRelay.Json.Value

/-! # Objects of JSON

Fields that ascend by name are determined by what is found under each name, and setting fields keeps
them ascending.
-/

namespace ChatRelay.Json.Fields

/-- The names of fields ascend, so that no name occurs twice. -/
def Ascending (fields : List (String × Value)) : Prop := fields.Pairwise fun a b => a.1 < b.1

variable {fields others : List (String × Value)} {name key : String} {value : Value}

theorem lt_of_not_lt (atLeast : ¬name < key) (other : name ≠ key) : key < name := by
  refine Decidable.byContradiction fun atMost => other ?_
  exact String.le_antisymm (String.not_lt.mp atMost) (String.not_lt.mp atLeast)

@[simp] theorem get?_nil (key : String) : get? key [] = none := rfl

theorem get?_cons (field : String × Value) (fields : List (String × Value)) (key : String) :
    get? key (field :: fields) = if field.1 = key then some field.2 else get? key fields := by
  obtain ⟨name, value⟩ := field
  rfl

theorem mem_of_get? (found : get? key fields = some value) : (key, value) ∈ fields := by
  induction fields with
  | nil => cases found
  | cons field fields ih =>
      rw [get?_cons] at found
      split at found
      · next same =>
          cases found
          exact same ▸ List.mem_cons_self
      · exact List.mem_cons_of_mem _ (ih found)

theorem get?_eq_none_iff : get? key fields = none ↔ ∀ field ∈ fields, field.1 ≠ key := by
  induction fields with
  | nil => simp
  | cons field fields ih =>
      rw [get?_cons, List.forall_mem_cons]
      split
      · next same => simp [same]
      · next other => rw [ih]; exact ⟨fun rest => ⟨other, rest⟩, And.right⟩

/-- If no name occurs twice, every field is found under its name. -/
theorem mem_iff_of_nodup (nodup : (fields.map Prod.fst).Nodup) (field : String × Value) :
    field ∈ fields ↔ get? field.1 fields = some field.2 := by
  refine ⟨fun member => ?_, mem_of_get?⟩
  induction fields with
  | nil => cases member
  | cons first fields ih =>
      obtain ⟨fresh, rest⟩ := List.nodup_cons.mp nodup
      rw [get?_cons]
      rcases List.mem_cons.mp member with rfl | later
      · rw [if_pos rfl]
      · have other : first.1 ≠ field.1 := fun same =>
          fresh (same ▸ List.mem_map_of_mem later)
        rw [if_neg other]
        exact ih rest later

theorem get?_append (fields others : List (String × Value)) (key : String) :
    get? key (fields ++ others) = (get? key fields).or (get? key others) := by
  induction fields with
  | nil => rfl
  | cons field fields ih =>
      rw [List.cons_append, get?_cons, get?_cons, ih]
      split <;> rfl

theorem get?_filter (keep : String → Bool) (fields : List (String × Value)) (key : String) :
    get? key (fields.filter fun (name, _) => keep name) =
      if keep key then get? key fields else none := by
  induction fields with
  | nil => simp
  | cons field fields ih =>
      rw [List.filter_cons]
      by_cases same : field.1 = key
      · subst same
        cases kept : keep field.1 with
        | true => simp [get?_cons, kept]
        | false => simpa [kept] using ih
      · cases kept : keep field.1 with
        | true => simp [get?_cons, kept, same, ih]
        | false => simpa [kept, get?_cons, same] using ih

theorem get?_filter_of_nodup (nodup : (fields.map Prod.fst).Nodup) (keep : String × Value → Bool)
    (key : String) :
    get? key (fields.filter keep) = (get? key fields).filter fun value => keep (key, value) := by
  induction fields with
  | nil => rfl
  | cons field fields ih =>
      obtain ⟨fresh, rest⟩ := List.nodup_cons.mp nodup
      rw [List.filter_cons, get?_cons]
      by_cases same : field.1 = key
      · subst same
        have missing : get? field.1 fields = none :=
          get?_eq_none_iff.mpr fun other member same => fresh (same ▸ List.mem_map_of_mem member)
        rw [if_pos rfl, Option.filter_some]
        cases keep field with
        | true => simp [get?_cons]
        | false => simp [ih rest, missing]
      · rw [if_neg same, ← ih rest]
        cases keep field with
        | true => simp [get?_cons, same]
        | false => rfl

theorem get?_insert (name : String) (value : Value) (fields : List (String × Value))
    (key : String) :
    get? key (insert name value fields) = if name = key then some value else get? key fields := by
  induction fields with
  | nil => rfl
  | cons field fields ih =>
      obtain ⟨first, old⟩ := field
      rw [insert]
      split
      · rw [get?_cons]
      · split
        · next same =>
            subst same
            simp only [get?_cons]
            split <;> rfl
        · next other =>
            simp only [get?_cons, ih]
            split
            · next found =>
                subst found
                rw [if_neg other]
            · rfl

theorem mem_of_mem_insert {field : String × Value} (member : field ∈ insert name value fields) :
    field = (name, value) ∨ field ∈ fields := by
  induction fields with
  | nil => exact .inl (List.mem_singleton.mp member)
  | cons first fields ih =>
      obtain ⟨key, old⟩ := first
      rw [insert] at member
      split at member
      · exact List.mem_cons.mp member
      · split at member
        · rcases List.mem_cons.mp member with same | member
          · exact .inl same
          · exact .inr (List.mem_cons_of_mem _ member)
        · rcases List.mem_cons.mp member with same | member
          · exact .inr (same ▸ List.mem_cons_self)
          · exact (ih member).imp_right (List.mem_cons_of_mem _)

namespace Ascending

theorem nil : Ascending [] := List.Pairwise.nil

theorem insert (ascending : Ascending fields) (name : String) (value : Value) :
    Ascending (insert name value fields) := by
  induction fields with
  | nil => exact List.pairwise_singleton ..
  | cons first fields ih =>
      obtain ⟨key, old⟩ := first
      obtain ⟨least, rest⟩ := List.pairwise_cons.mp ascending
      rw [Fields.insert]
      split
      · next less =>
          refine List.pairwise_cons.mpr ⟨fun field member => ?_, ascending⟩
          rcases List.mem_cons.mp member with rfl | member
          · exact less
          · exact String.lt_trans less (least field member)
      · next atLeast =>
          split
          · next same => exact List.pairwise_cons.mpr ⟨same ▸ least, rest⟩
          · next other =>
              refine List.pairwise_cons.mpr ⟨fun field member => ?_, ih rest⟩
              rcases mem_of_mem_insert member with rfl | member
              · exact lt_of_not_lt atLeast other
              · exact least field member

theorem filter (ascending : Ascending fields) (keep : String × Value → Bool) :
    Ascending (fields.filter keep) :=
  List.Pairwise.filter keep ascending

theorem nodup (ascending : Ascending fields) : (fields.map Prod.fst).Nodup := by
  rw [List.Nodup, List.pairwise_map]
  refine ascending.imp fun {a b} less same => ?_
  exact String.lt_irrefl b.1 (same ▸ less)

/-- Ascending fields are determined by what is found under each name. -/
theorem eq_of_get? (ascending : Ascending fields) (ascending' : Ascending others)
    (same : ∀ key, get? key fields = get? key others) : fields = others := by
  have distinct {fields : List (String × Value)} (ascending : Ascending fields) : fields.Nodup :=
    List.Pairwise.of_map Prod.fst (fun _ _ apart same => apart (congrArg Prod.fst same))
      ascending.nodup
  apply List.Perm.eq_of_pairwise ?_ ascending ascending'
  · apply (List.perm_ext_iff_of_nodup (distinct ascending) (distinct ascending')).mpr
    intro field
    rw [mem_iff_of_nodup ascending.nodup, mem_iff_of_nodup ascending'.nodup, same]
  · intro a b _ _ before after
    exact absurd after (String.lt_asymm before)

end Ascending

/-- A field whose name is above all others is put at the end. -/
theorem insert_last (above : ∀ field ∈ fields, field.1 < name) :
    insert name value fields = fields ++ [(name, value)] := by
  induction fields with
  | nil => rfl
  | cons first fields ih =>
      obtain ⟨key, old⟩ := first
      have less : key < name := above _ List.mem_cons_self
      have atLeast : ¬name < key := String.lt_asymm less
      have other : name ≠ key := fun same => String.lt_irrefl _ (same ▸ less)
      rw [insert, if_neg atLeast, if_neg other,
        ih fun field member => above field (List.mem_cons_of_mem _ member)]
      rfl

/-- Setting ascending fields one after the other gives these fields. -/
theorem ofList_of_ascending (ascending : Ascending fields) : ofList fields = fields := by
  have onto {done todo : List (String × Value)} (ascending : Ascending (done ++ todo)) :
      todo.foldl (fun acc (name, value) => insert name value acc) done = done ++ todo := by
    induction todo generalizing done with
    | nil => rw [List.append_nil]; rfl
    | cons field todo ih =>
        obtain ⟨name, value⟩ := field
        have above : ∀ field ∈ done, field.1 < name := fun field member =>
          (List.pairwise_append.mp ascending).2.2 field member _ List.mem_cons_self
        have again : Ascending ((done ++ [(name, value)]) ++ todo) := by
          rwa [List.append_assoc]
        rw [List.foldl_cons]
        change todo.foldl _ (insert name value done) = _
        rw [insert_last above, ih again, List.append_assoc]
        rfl
  exact onto ascending

theorem get?_ofList (fields : List (String × Value)) (key : String) :
    get? key (ofList fields) = get? key fields.reverse := by
  have onto (acc : List (String × Value)) (fields : List (String × Value)) :
      get? key (fields.foldl (fun acc (name, value) => insert name value acc) acc) =
        (get? key fields.reverse).or (get? key acc) := by
    induction fields generalizing acc with
    | nil => rfl
    | cons field fields ih =>
        obtain ⟨name, value⟩ := field
        rw [List.foldl_cons, ih, get?_insert, List.reverse_cons, get?_append, Option.or_assoc,
          get?_cons]
        split <;> rfl
  rw [ofList, onto, get?_nil, Option.or_none]

theorem get?_ofList_of_nodup (nodup : (fields.map Prod.fst).Nodup) (key : String) :
    get? key (ofList fields) = get? key fields := by
  have reversed : (fields.reverse.map Prod.fst).Nodup := by
    rw [List.map_reverse]
    exact List.pairwise_reverse.mpr (nodup.imp fun apart same => apart same.symm)
  rw [get?_ofList]
  apply Option.ext
  intro value
  have found := mem_iff_of_nodup nodup (key, value)
  have found' := mem_iff_of_nodup reversed (key, value)
  rw [← found, ← found', List.mem_reverse]

theorem ascending_ofList (fields : List (String × Value)) : Ascending (ofList fields) := by
  have onto {acc : List (String × Value)} (ascending : Ascending acc)
      (fields : List (String × Value)) :
      Ascending (fields.foldl (fun acc (name, value) => insert name value acc) acc) := by
    induction fields generalizing acc with
    | nil => exact ascending
    | cons field fields ih => exact ih (ascending.insert field.1 field.2)
  exact onto .nil fields

end ChatRelay.Json.Fields
