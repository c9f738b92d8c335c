import AppSync.Load.Session
import AppSync.Proofs.Source.Cache

/-! Computations that leave a trail, compared through any two faithful caches. -/

namespace AppSync

variable {ε α β : Type}

/-- Computations that leave a trail. -/
abbrev Trailing (ε α : Type) := ExceptT ε (StateM Trail) α

/-- Results that have the same value, or both an error of the same sort. -/
inductive SameResult (same : ε → ε → Prop) : Except ε α → Except ε α → Prop where
  | ok (value : α) : SameResult same (.ok value) (.ok value)
  | error {left right : ε} (related : same left right) :
    SameResult same (.error left) (.error right)

/-- Results whose errors are equal are equal. -/
theorem SameResult.eq {left right : Except ε α} (related : SameResult Eq left right) :
    left = right := by
  cases related with
  | ok value => rfl
  | error related => rw [related]

namespace Trailing

/-- What a computation answers by itself, with nothing resolved before it. -/
def alone (action : Trailing ε α) : Except ε α :=
  (action.run {}).1

/-- A computation after another one starts with the trail that the first one leaves. -/
theorem run_bind (action : Trailing ε α) (next : α → Trailing ε β) (trail : Trail) :
    (action >>= next).run trail =
      match (action.run trail).1 with
      | .ok value => (next value).run (action.run trail).2
      | .error error => (.error error, (action.run trail).2) := by
  rw [ExceptT.run_bind]
  -- The state monad runs the second computation on what the first one leaves.
  change StateT.bind action.run _ trail = _
  unfold StateT.bind
  rcases action.run trail with ⟨result | result, left⟩ <;> rfl

/-- Computations with the same results through faithful caches, which they leave faithful. -/
structure Alike (same : ε → ε → Prop) (first second : Trailing ε α) : Prop where
  results : ∀ {trail other : Trail}, trail.cache.Faithful → other.cache.Faithful →
    SameResult same (first.run trail).1 (second.run other).1
  faithful_left : ∀ {trail : Trail}, trail.cache.Faithful → (first.run trail).2.cache.Faithful
  faithful_right : ∀ {trail : Trail}, trail.cache.Faithful → (second.run trail).2.cache.Faithful

namespace Alike

variable {same : ε → ε → Prop}

/-- A value that is there already needs no cache. -/
theorem pure (value : α) : Alike same (Pure.pure value) (Pure.pure value) :=
  ⟨fun _ _ => .ok value, fun faithful => faithful, fun faithful => faithful⟩

/-- Giving up needs no cache. -/
theorem throw {left right : ε} (related : same left right) :
    Alike same (throw left : Trailing ε α) (throw right) :=
  ⟨fun _ _ => .error related, fun faithful => faithful, fun faithful => faithful⟩

/-- Changing what a trail says of wrappings needs no cache. -/
theorem modify {change : Trail → Trail} (kept : ∀ trail, (change trail).cache = trail.cache) :
    Alike same (modify change) (modify change) := by
  constructor
  · intro _ _ _ _
    exact .ok ()
  · intro trail faithful
    change (change trail).cache.Faithful
    rwa [kept]
  · intro trail faithful
    change (change trail).cache.Faithful
    rwa [kept]

/-- Computations that go on alike after computations that are alike. -/
theorem bind {first second : Trailing ε α} {next following : α → Trailing ε β}
    (begin : Alike same first second) (go_on : ∀ value, Alike same (next value) (following value)) :
    Alike same (first >>= next) (second >>= following) := by
  constructor
  · intro trail other faithful faithful'
    rw [run_bind, run_bind]
    have related := begin.results faithful faithful'
    -- Both have a value, with which they go on, or both have an error.
    generalize (first.run trail).1 = left at related
    generalize (second.run other).1 = right at related
    cases related with
    | ok value =>
      exact (go_on value).results (begin.faithful_left faithful) (begin.faithful_right faithful')
    | error related => exact .error related
  · intro trail faithful
    rw [run_bind]
    cases (first.run trail).1 with
    | error error => exact begin.faithful_left faithful
    | ok value => exact (go_on value).faithful_left (begin.faithful_left faithful)
  · intro trail faithful
    rw [run_bind]
    cases (second.run trail).1 with
    | error error => exact begin.faithful_right faithful
    | ok value => exact (go_on value).faithful_right (begin.faithful_right faithful)

/-- Computations that are alike stay so where more errors count as the same. -/
theorem imp {wider : ε → ε → Prop} {first second : Trailing ε α}
    (wide : ∀ left right, same left right → wider left right) (alike : Alike same first second) :
    Alike wider first second := by
  refine ⟨fun {trail other} faithful faithful' => ?_, alike.faithful_left, alike.faithful_right⟩
  -- The results stay as they are; only their relation is widened.
  have related := alike.results faithful faithful'
  generalize (first.run trail).1 = left at related ⊢
  generalize (second.run other).1 = right at related ⊢
  cases related with
  | ok value => exact .ok value
  | error related => exact .error (wide _ _ related)

end Alike

/-- A computation has one result through every faithful cache, which it leaves faithful. -/
structure Gives (action : Trailing ε α) (result : Except ε α) : Prop where
  answer : ∀ {trail : Trail}, trail.cache.Faithful → (action.run trail).1 = result
  faithful : ∀ {trail : Trail}, trail.cache.Faithful → (action.run trail).2.cache.Faithful

/-- A computation that is like itself with equal errors gives what it answers by itself. -/
theorem Alike.gives {action : Trailing ε α} (alike : Alike Eq action action) :
    Gives action action.alone :=
  ⟨fun faithful => (alike.results faithful TypeCache.faithful_empty).eq, alike.faithful_left⟩

namespace Gives

/-- The one result of a computation is what it answers by itself. -/
theorem alone_eq {action : Trailing ε α} {result : Except ε α} (gives : Gives action result) :
    action.alone = result :=
  gives.answer TypeCache.faithful_empty

/-- A value that is there already is given. -/
theorem pure (value : α) : Gives (Pure.pure value : Trailing ε α) (.ok value) :=
  ⟨fun _ => rfl, fun faithful => faithful⟩

/-- An error that is thrown is given. -/
theorem throw (error : ε) : Gives (throw error : Trailing ε α) (.error error) :=
  ⟨fun _ => rfl, fun faithful => faithful⟩

/-- A computation goes on with the value that a first one gives. -/
theorem bind_ok {action : Trailing ε α} {value : α} {next : α → Trailing ε β}
    {result : Except ε β} (first : Gives action (.ok value)) (then_ : Gives (next value) result) :
    Gives (action >>= next) result := by
  constructor
  · intro trail faithful
    rw [run_bind, first.answer faithful]
    exact then_.answer (first.faithful faithful)
  · intro trail faithful
    rw [run_bind, first.answer faithful]
    exact then_.faithful (first.faithful faithful)

/-- A computation ends with the error that a first one gives. -/
theorem bind_error {action : Trailing ε α} {error : ε} {next : α → Trailing ε β}
    (first : Gives action (.error error)) : Gives (action >>= next) (.error error) := by
  constructor
  · intro trail faithful
    rw [run_bind, first.answer faithful]
  · intro trail faithful
    rw [run_bind, first.answer faithful]
    exact first.faithful faithful

/-- A computation goes on with whatever a first one gives. -/
theorem bind {action : Trailing ε α} {result : Except ε α} {next : α → Trailing ε β}
    {following : α → Except ε β} (first : Gives action result)
    (then_ : ∀ value, Gives (next value) (following value)) :
    Gives (action >>= next) (result >>= following) := by
  cases result with
  | error error => exact first.bind_error
  | ok value => exact first.bind_ok (then_ value)

/-- What is made of a value by itself is made of the value that is given. -/
theorem map {action : Trailing ε α} {result : Except ε α} (gives : Gives action result)
    (make : α → β) :
    Gives (action >>= fun value => Pure.pure (make value)) (result.map make) := by
  -- An error is passed on, and a value is made something of.
  cases result with
  | error error => exact gives.bind_error
  | ok value => exact gives.bind_ok (.pure (make value))

end Gives

/-- Computations that give values of which one relates to the other, or the same error. -/
inductive Parallel (related : α → β → Prop) (first : Trailing ε α) (second : Trailing ε β) :
    Prop where
  | ok {value : α} {other : β} (left : Gives first (.ok value)) (right : Gives second (.ok other))
    (held : related value other) : Parallel related first second
  | error {error : ε} (left : Gives first (.error error)) (right : Gives second (.error error)) :
    Parallel related first second

namespace Parallel

/-- A computation with one result goes along with itself if every value relates to itself. -/
theorem refl {action : Trailing ε α} {result : Except ε α} (gives : Gives action result)
    {related : α → α → Prop} (itself : ∀ value, related value value) :
    Parallel related action action := by
  cases result with
  | error error => exact .error gives gives
  | ok value => exact .ok gives gives (itself value)

/-- Computations that go on with related values keep going along with each other. -/
theorem bind {α' β' : Type} {related : α → β → Prop} {later : α' → β' → Prop}
    {first : Trailing ε α} {second : Trailing ε β} {next : α → Trailing ε α'}
    {following : β → Trailing ε β'} (begin : Parallel related first second)
    (go_on : ∀ value other, related value other →
      Parallel later (next value) (following other)) :
    Parallel later (first >>= next) (second >>= following) := by
  -- An error of the first stage is the same on both sides and ends both.
  cases begin with
  | error left right => exact .error left.bind_error right.bind_error
  | ok left right held =>
    cases go_on _ _ held with
    | error left' right' => exact .error (left.bind_ok left') (right.bind_ok right')
    | ok left' right' held' => exact .ok (left.bind_ok left') (right.bind_ok right') held'

/-- After the same stage with one result, computations go along with each other for its value. -/
theorem after {α' β' : Type} {later : α' → β' → Prop} {action : Trailing ε α}
    {result : Except ε α} (gives : Gives action result) {next : α → Trailing ε α'}
    {following : α → Trailing ε β'}
    (go_on : ∀ value, Parallel later (next value) (following value)) :
    Parallel later (action >>= next) (action >>= following) := by
  have same : Parallel Eq action action := .refl gives fun _ => rfl
  refine same.bind fun value other equal => ?_
  rw [← equal]
  exact go_on value

/-- Computations that give equal values answer the same by themselves. -/
theorem alone_eq {first second : Trailing ε α} (parallel : Parallel Eq first second) :
    second.alone = first.alone := by
  cases parallel with
  | error left right => rw [left.alone_eq, right.alone_eq]
  | ok left right held => rw [left.alone_eq, right.alone_eq, held]

end Parallel

end Trailing

end AppSync
