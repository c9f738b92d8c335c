/-! What the stages of a computation gave, if the whole of it gave a value. -/

namespace AppSync

/-- A value that comes of two stages comes of a value of the first. -/
theorem Except.ok_of_bind {ε α β : Type} {first : Except ε α} {next : α → Except ε β} {value : β}
    (found : first >>= next = .ok value) :
    ∃ middle, first = .ok middle ∧ next middle = .ok value := by
  cases first with
  | error error => cases found
  | ok middle => exact ⟨middle, rfl, found⟩

/-- A value does not depend on how errors are changed. -/
theorem Except.ok_of_mapError {ε ε' α : Type} {result : Except ε α} {change : ε → ε'} {value : α}
    (found : result.mapError change = .ok value) : result = .ok value := by
  cases result with
  | error error => cases found
  | ok same =>
    cases found
    rfl

/-- Where something is told of the value of a result, there is a value that it is told of. -/
theorem Except.ok_of_toOption_map {ε α β : Type} {result : Except ε α} {tell : α → β} {told : β}
    (found : result.toOption.map tell = some told) :
    ∃ value, result = .ok value ∧ tell value = told := by
  cases result with
  | error error => cases found
  | ok value => exact ⟨value, rfl, Option.some.inj found⟩

end AppSync
