import Mathlib.Data.List.Forall2
import Mathlib.Data.List.Nodup
import Mathlib.Data.List.Perm.Basic

/-!
# Lists that grow at their end

Lines, schedules, histories and dialogues grow at their end, and out of a crew one worker at a time
takes a turn. These are the facts about such lists that the library does not state in the form in
which they are needed here.
-/

namespace ReminderDispatch

variable {α : Type} {items front back : List α} {item last : α}

/-- Nothing is repeated when something new is put at the end. -/
theorem nodup_append_singleton (nodup : items.Nodup) (fresh : item ∉ items) :
    (items ++ [item]).Nodup := by
  rw [← List.concat_eq_append]
  exact nodup.concat fresh

/-- What stands in a list with a last element is this element, or it stands before it. -/
theorem append_cons_eq_concat (split : items ++ [last] = front ++ item :: back) :
    (items = front ∧ last = item ∧ back = []) ∨
      ∃ more, items = front ++ item :: more ∧ back = more ++ [last] := by
  rcases List.eq_nil_or_concat back with rfl | ⟨more, final, rfl⟩
  · have same := List.append_inj_right' split rfl
    exact .inl ⟨List.append_inj_left' split rfl, List.singleton_inj.1 same, rfl⟩
  · rw [List.concat_eq_append, ← List.cons_append, ← List.append_assoc] at split
    have same := List.append_inj_right' split rfl
    rw [List.singleton_inj.1 same]
    exact .inr ⟨more, List.append_inj_left' split rfl, List.concat_eq_append⟩

/-- An element of two lists that are joined stands in the first one or in the second one. -/
theorem append_eq_append_cons {more : List α} (split : items ++ more = front ++ item :: back) :
    (∃ rest, items = front ++ item :: rest ∧ back = rest ++ more) ∨
      ∃ rest, front = items ++ rest ∧ more = rest ++ item :: back := by
  rcases List.append_eq_append_iff.1 split with ⟨rest, isFront, isMore⟩ | ⟨rest, isItems, isBack⟩
  · exact .inr ⟨rest, isFront, isMore⟩
  · rcases List.cons_eq_append_iff.1 isBack with ⟨rfl, isMore⟩ | ⟨rest, rfl, isBack⟩
    · exact .inr ⟨[], by simpa using isItems.symm, isMore⟩
    · exact .inl ⟨rest, isItems, List.tail_eq_of_cons_eq isBack⟩

/-- If some elements pass a test, one of them is the last. -/
theorem exists_last {test : α → Prop} (some : ∃ item ∈ items, test item) :
    ∃ front item back, items = front ++ item :: back ∧ test item ∧
      ∀ other ∈ back, ¬ test other := by
  induction items with
  | nil => simp at some
  | cons first more ih =>
    by_cases later : ∃ item ∈ more, test item
    · obtain ⟨front, item, back, rfl, passes, last⟩ := ih later
      exact ⟨first :: front, item, back, rfl, passes, last⟩
    · have passes : test first := by simpa [later] using some
      exact ⟨[], first, more, rfl, passes, fun other isMore passes => later ⟨other, isMore, passes⟩⟩

/-- What holds up to some place of an ordered list holds for the elements that are taken from its
front, and for no others. -/
theorem takeWhile_eq_filter {less : α → α → Prop} {keep : α → Bool}
    (ordered : items.Pairwise less) (downward : ∀ a b, less a b → keep b → keep a) :
    items.takeWhile keep = items.filter keep := by
  induction items with
  | nil => rfl
  | cons first more ih =>
    obtain ⟨least, rest⟩ := List.pairwise_cons.1 ordered
    by_cases kept : keep first
    · rw [List.takeWhile_cons_of_pos kept, List.filter_cons_of_pos kept, ih rest]
    · have none : more.filter keep = [] := by
        apply List.filter_eq_nil_iff.2
        intro other member holds
        exact kept (downward first other (least other member) holds)
      rw [List.takeWhile_cons_of_neg kept, List.filter_cons_of_neg kept, none]

/-- What is left of an ordered list behind such a place are the elements for which it does not
hold. -/
theorem dropWhile_eq_filter_not {less : α → α → Prop} {keep : α → Bool}
    (ordered : items.Pairwise less) (downward : ∀ a b, less a b → keep b → keep a) :
    items.dropWhile keep = items.filter (fun item => !keep item) := by
  induction items with
  | nil => rfl
  | cons first more ih =>
    obtain ⟨least, rest⟩ := List.pairwise_cons.1 ordered
    by_cases kept : keep first
    · rw [List.dropWhile_cons_of_pos kept, ih rest, List.filter_cons_of_neg (by simpa using kept)]
    · have all : more.filter (fun item => !keep item) = more := by
        apply List.filter_eq_self.2
        intro other member
        have notKept : ¬ keep other := fun holds =>
          kept (downward first other (least other member) holds)
        simpa using notKept
      rw [List.dropWhile_cons_of_neg kept, List.filter_cons_of_pos (by simpa using kept), all]

/-- The first element for which something holds splits a list in one way only. -/
theorem first_split_unique {p : α → Prop} {other rest : List α} (before : ∀ x ∈ front, ¬ p x)
    (holds : p item) (otherBefore : ∀ x ∈ other, ¬ p x) (otherHolds : p last)
    (split : front ++ item :: back = other ++ last :: rest) :
    front = other ∧ item = last ∧ back = rest := by
  rcases List.append_eq_append_iff.1 split with ⟨between, longer, tail⟩ | ⟨between, longer, tail⟩
  · cases between with
    | nil => exact ⟨by simpa using longer.symm, List.cons.inj tail⟩
    | cons first more =>
      obtain ⟨rfl, -⟩ := List.cons.inj tail
      exact absurd holds (otherBefore item (by simp [longer]))
  · cases between with
    | nil =>
      obtain ⟨rfl, rfl⟩ := List.cons.inj tail
      exact ⟨by simpa using longer, rfl, rfl⟩
    | cons first more =>
      obtain ⟨rfl, -⟩ := List.cons.inj tail
      exact absurd otherHolds (before last (by simp [longer]))

/-- What is related to a list has a part for each of its elements. -/
theorem forall₂_append_cons {β : Type} {related : α → β → Prop} {others : List β}
    (all : List.Forall₂ related (front ++ item :: back) others) :
    ∃ first other second, others = first ++ other :: second ∧
      List.Forall₂ related front first ∧ related item other := by
  induction front generalizing others with
  | nil =>
    obtain ⟨other, second, holds, -, rfl⟩ := List.forall₂_cons_left_iff.1 all
    exact ⟨[], other, second, rfl, .nil, holds⟩
  | cons head tail ih =>
    obtain ⟨start, rest, isFirst, following, rfl⟩ := List.forall₂_cons_left_iff.1 all
    obtain ⟨first, other, second, rfl, before, holds⟩ := ih following
    exact ⟨start :: first, other, second, rfl, .cons isFirst before, holds⟩

/-- To erase an element of a list without repetitions is to keep all others. -/
theorem erase_eq_filter_ne [DecidableEq α] (nodup : items.Nodup) (item : α) :
    items.erase item = items.filter (· ≠ item) := by
  rw [nodup.erase_eq_filter]
  apply List.filter_congr
  intro other _
  rw [Bool.eq_iff_iff]
  simp

/-- What a partial function finds is among what one finds that agrees with it and finds more. -/
theorem filterMap_sublist_filterMap {β : Type} {less more : α → Option β}
    (agree : ∀ item found, less item = some found → more item = some found) (items : List α) :
    (items.filterMap less).Sublist (items.filterMap more) := by
  induction items with
  | nil => exact .refl _
  | cons item rest ih =>
    cases found : less item with
    | none =>
      rw [List.filterMap_cons_none found]
      exact ih.trans ((List.sublist_cons_self item rest).filterMap more)
    | some result =>
      rw [List.filterMap_cons_some found, List.filterMap_cons_some (agree item result found)]
      exact ih.cons_cons result

/-- Any item of a list can be taken for the first one. -/
theorem perm_cons_eraseIdx {number : Nat} (found : items[number]? = some item) :
    items.Perm (item :: items.eraseIdx number) := by
  obtain ⟨inRange, same⟩ := List.getElem?_eq_some_iff.1 found
  rw [← same]
  exact (List.getElem_cons_eraseIdx_perm inRange).symm

/-- An item that was put in the place of another one can be taken for the first one. -/
theorem set_perm_cons_eraseIdx {number : Nat} (found : items[number]? = some item) (next : α) :
    (items.set number next).Perm (next :: items.eraseIdx number) := by
  obtain ⟨inRange, -⟩ := List.getElem?_eq_some_iff.1 found
  have stillInRange : number < (items.set number next).length := by
    rw [List.length_set]
    exact inRange
  have split := List.getElem_cons_eraseIdx_perm stillInRange
  rw [List.getElem_set_self, List.eraseIdx_set_eq] at split
  exact split.symm

/-- What lists of one length have grown by does not change which of them comes first. -/
theorem append_lt_append [LT α] {one other : List α} (sameLength : one.length = other.length)
    (less : one < other) (more rest : List α) : one ++ more < other ++ rest := by
  induction one generalizing other with
  | nil =>
    rw [List.eq_nil_of_length_eq_zero sameLength.symm] at less
    exact absurd less (List.not_lt_nil [])
  | cons first tail ih =>
    cases other with
    | nil => exact absurd less (List.not_lt_nil _)
    | cons head following =>
      rw [List.cons_append, List.cons_append, List.cons_lt_cons_iff]
      rcases List.cons_lt_cons_iff.1 less with earlier | ⟨same, later⟩
      · exact .inl earlier
      · exact .inr ⟨same, ih (Nat.succ.inj sameLength) later⟩

end ReminderDispatch
