/-!
How computations end: with values of a kind, or with errors of a kind. Programs with a state may
rely on an invariant of it, which they leave in place.
-/

namespace AppSync

variable {σ ε α β : Type}

/-- A result with a value or an error of a kind. -/
def Ends (good : α → Prop) (reason : ε → Prop) : Except ε α → Prop
  | .ok value => good value
  | .error failure => reason failure

namespace Ends

variable {good : α → Prop} {made : β → Prop} {reason : ε → Prop} {result : Except ε α}

/-- A value of the kind. -/
theorem ok {value : α} (held : good value) : Ends good reason (.ok value) :=
  held

/-- An error of the kind. -/
theorem error {failure : ε} (known : reason failure) :
    Ends good reason (.error failure : Except ε α) :=
  known

/-- A result ends so if its value does, and its error does. -/
theorem intro (ok : ∀ value, result = .ok value → good value)
    (error : ∀ failure, result = .error failure → reason failure) : Ends good reason result := by
  cases result with
  | error failure => exact error failure rfl
  | ok value => exact ok value rfl

/-- The value of a result that ends so. -/
theorem of_ok {value : α} (ends : Ends good reason result) (found : result = .ok value) :
    good value := by
  rwa [found] at ends

/-- The error of a result that ends so. -/
theorem of_error {failure : ε} (ends : Ends good reason result)
    (failed : result = .error failure) : reason failure := by
  rwa [failed] at ends

/-- One computation after another ends as the second one does, or with an error of the first. -/
theorem bind {first : Except ε α} {next : α → Except ε β} (one : Ends good reason first)
    (other : ∀ value, good value → Ends made reason (next value)) :
    Ends made reason (first >>= next) := by
  cases first with
  | error failure => exact one
  | ok value => exact other value one

/-- A weaker property is one of the value as well. -/
theorem imp {weaker : α → Prop} (ends : Ends good reason result)
    (weak : ∀ value, good value → weaker value) : Ends weaker reason result := by
  cases result with
  | error failure => exact ends
  | ok value => exact weak value ends

/-- Where errors are changed, what they are changed to counts. -/
theorem mapError {ε' : Type} {kind : ε' → Prop} {change : ε → ε'}
    (ends : Ends good (fun failure => kind (change failure)) result) :
    Ends good kind (result.mapError change) := by
  cases result with
  | error failure => exact ends
  | ok value => exact ends

/-- Choosing between two computations ends as the chosen one. -/
theorem ite {condition : Prop} [Decidable condition] {first second : Except ε α}
    (one : condition → Ends good reason first) (other : ¬condition → Ends good reason second) :
    Ends good reason (if condition then first else second) := by
  split
  · exact one ‹_›
  · exact other ‹_›

/-- Computations for items end with all their values, or with the first error. -/
theorem mapM {items : List α} {compute : α → Except ε β}
    (each : ∀ item ∈ items, Ends made reason (compute item)) :
    Ends (fun found => ∀ value ∈ found, made value) reason (items.mapM compute) := by
  induction items with
  | nil => exact fun _ member => nomatch member
  | cons item rest ih =>
    rw [List.mapM_cons]
    refine (each item List.mem_cons_self).bind fun first own => ?_
    refine (ih fun other member => each other (List.mem_cons_of_mem item member)).bind
      fun others all => ?_
    exact List.forall_mem_cons.mpr ⟨own, all⟩

end Ends

/-- A program that leaves an invariant in place, and fails only with errors of a kind. -/
def Keeps (kept : σ → Prop) (reason : ε → Prop) (program : StateT σ (Except ε) α) : Prop :=
  ∀ state, kept state → Ends (fun found => kept found.2) reason (program.run state)

namespace Keeps

variable {kept : σ → Prop} {reason : ε → Prop}

/-- A value that is there already leaves everything in place. -/
@[grind ←]
theorem pure (value : α) : Keeps kept reason (Pure.pure value) :=
  fun _ holds => holds

/-- An error of the kind may end a program. -/
@[grind ←]
theorem throw {failure : ε} (known : reason failure) :
    Keeps kept reason (throw failure : StateT σ (Except ε) α) :=
  fun _ _ => known

/-- One program after another. -/
@[grind ←]
theorem bind {first : StateT σ (Except ε) α} {next : α → StateT σ (Except ε) β}
    (one : Keeps kept reason first) (other : ∀ value, Keeps kept reason (next value)) :
    Keeps kept reason (first >>= next) := by
  intro state holds
  rw [StateT.run_bind]
  exact (one state holds).bind fun found after => other found.1 found.2 after

/-- A program whose result is changed. -/
@[grind ←]
theorem map {program : StateT σ (Except ε) α} (keeps : Keeps kept reason program) (make : α → β) :
    Keeps kept reason (make <$> program) := by
  intro state holds
  rw [StateT.run_map]
  exact (keeps state holds).bind fun _ after => after

/-- A program that looks at the state first may rely on the invariant of what it sees. -/
@[grind ←]
theorem bind_get {next : σ → StateT σ (Except ε) α}
    (other : ∀ state, kept state → Keeps kept reason (next state)) :
    Keeps kept reason (get >>= next) :=
  fun state holds => other state holds state holds

/-- Looking at the state leaves it. -/
@[grind ←]
theorem get : Keeps kept reason (get : StateT σ (Except ε) σ) :=
  fun _ holds => holds

/-- A state that satisfies the invariant may take the place of the state. -/
@[grind ←]
theorem set {state : σ} (holds : kept state) :
    Keeps kept reason (set state : StateT σ (Except ε) PUnit) :=
  fun _ _ => holds

/-- The state may be changed if the change leaves the invariant in place. -/
theorem modify {change : σ → σ} (holds : ∀ state, kept state → kept (change state)) :
    Keeps kept reason (modify change : StateT σ (Except ε) PUnit) :=
  fun state known => holds state known

/-- Choosing between two programs. -/
theorem ite {condition : Prop} [Decidable condition] {first second : StateT σ (Except ε) α}
    (one : condition → Keeps kept reason first) (other : ¬condition → Keeps kept reason second) :
    Keeps kept reason (if condition then first else second) := by
  split
  · exact one ‹_›
  · exact other ‹_›

end Keeps

end AppSync
