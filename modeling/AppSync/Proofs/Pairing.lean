import Mathlib.Data.List.Forall2

/-! Lists whose items go in pairs: what a relation of the pairs says of either list. -/

namespace AppSync

variable {α β : Type} {relation : α → β → Prop} {items : List α} {meanings : List β}

/-- What pairs imply of their first parts holds of each of these. -/
theorem forall_of_forall₂ (each : List.Forall₂ relation items meanings) {holds : α → Prop}
    (implied : ∀ item meaning, relation item meaning → holds item) :
    ∀ item ∈ items, holds item := by
  induction each with
  | nil => exact fun item member => nomatch member
  | cons own _ ih =>
    intro item member
    rcases List.mem_cons.mp member with rfl | member
    · exact implied _ _ own
    · exact ih item member

/-- What pairs imply of their second parts holds of each of these. -/
theorem forall_of_forall₂_right (each : List.Forall₂ relation items meanings) {holds : β → Prop}
    (implied : ∀ item meaning, relation item meaning → holds meaning) :
    ∀ meaning ∈ meanings, holds meaning :=
  forall_of_forall₂ (List.Forall₂.flip (R := flip relation) each) fun meaning item =>
    implied item meaning

/-- Items that each go with something go with a list of it. -/
theorem exists_forall₂ (each : ∀ item ∈ items, ∃ meaning, relation item meaning) :
    ∃ meanings, List.Forall₂ relation items meanings := by
  induction items with
  | nil => exact ⟨[], .nil⟩
  | cons item items ih =>
    obtain ⟨meaning, own⟩ := each item List.mem_cons_self
    obtain ⟨meanings, others⟩ := ih fun other member =>
      each other (List.mem_cons_of_mem item member)
    exact ⟨meaning :: meanings, .cons own others⟩

/-- What is made of the second parts of pairs, if the first parts tell it. -/
theorem filterMap_of_forall₂ {γ : Type} (of : α → Option γ) (found : β → Option γ)
    (each : List.Forall₂ relation items meanings)
    (same : ∀ item ∈ items, ∀ meaning, relation item meaning → found meaning = of item) :
    meanings.filterMap found = items.filterMap of := by
  induction each with
  | nil => rfl
  | @cons item meaning items meanings own _ ih =>
    have others := ih fun other member => same other (List.mem_cons_of_mem item member)
    rw [List.filterMap_cons, List.filterMap_cons, same item List.mem_cons_self meaning own, others]

/-- What is made of each second part of pairs, if the first parts tell it. -/
theorem map_of_forall₂ {γ : Type} (of : α → γ) (found : β → γ)
    (each : List.Forall₂ relation items meanings)
    (same : ∀ item meaning, relation item meaning → found meaning = of item) :
    meanings.map found = items.map of := by
  have made := filterMap_of_forall₂ (some ∘ of) (some ∘ found) each
    fun item _ meaning own => congrArg some (same item meaning own)
  rwa [List.filterMap_eq_map, List.filterMap_eq_map] at made

end AppSync
