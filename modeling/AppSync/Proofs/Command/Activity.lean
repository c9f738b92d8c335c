import AppSync.Command.Activity
import AppSync.Proofs.Console.Markup

/-! What activities come to: one after another, shown texts, and the code that a run ends with. -/

namespace AppSync.Command.Activity

variable {α β : Type}

/-- One activity after another comes to what the second one does with the result of the first. -/
theorem result_bind_eq_ok {first : Activity α} {next : α → Activity β} {value : β} :
    (first >>= next).result = .ok value ↔
      ∃ middle, first.result = .ok middle ∧ (next middle).result = .ok value := by
  change (Activity.bind first next).result = .ok value ↔ _
  unfold Activity.bind
  cases first.result with
  | error ending => simp
  | ok middle => simp

/-- A value that is there already is the result. -/
theorem result_pure_eq_ok {value found : α} :
    (pure value : Activity α).result = .ok found ↔ value = found := by
  change Except.ok value = .ok found ↔ _
  simp

/-- An attempt comes to the value that is attempted. -/
theorem result_attempt_eq_ok {attempted : Except Trouble α} {value : α} :
    (attempt attempted).result = .ok value ↔ attempted = .ok value := by
  cases attempted with
  | ok found => exact result_pure_eq_ok.trans (by simp)
  | error trouble =>
    cases trouble with
    | accident accident => simp [attempt, stop]
    | fault fault => simp [attempt, result_bind_eq_ok, stop]

/-- Notes for the log are always taken. -/
theorem result_log_eq_ok {notes : List Log.Note} {value : Unit} :
    (log notes).result = .ok value ↔ True := by
  simp [log]

/-- A text without opening brackets is shown. -/
theorem result_print {markup : String} (clear : '[' ∉ markup.toList) :
    (print markup).result = .ok () := by
  obtain ⟨lines, shown⟩ := Console.exists_shownLines clear
  rw [print, shown]
  rfl

/-- Texts that are each shown are shown one after another. -/
theorem result_printAll {texts : List String}
    (each : ∀ text ∈ texts, (print text).result = .ok ()) :
    (printAll texts).result = .ok () := by
  induction texts with
  | nil => rfl
  | cons text rest ih =>
    have later := ih fun other member => each other (List.mem_cons_of_mem text member)
    exact result_bind_eq_ok.mpr ⟨(), each text List.mem_cons_self, later⟩

/-- A run ends with zero exactly if it has a result. -/
theorem exitCode_eq_zero {activity : Activity α} :
    activity.exitCode = 0 ↔ ∃ value, activity.result = .ok value := by
  unfold exitCode
  cases activity.result with
  | ok value => simp
  | error ending => cases ending <;> simp

end AppSync.Command.Activity
