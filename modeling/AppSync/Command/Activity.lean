import AppSync.Console.Markup
import AppSync.Log
import AppSync.Trouble

/-! Activities: what is shown and noted while something is done, and what comes of it. -/

namespace AppSync.Command

/-- How an activity ends before it is done. -/
inductive Ending where
  /-- The program was asked for nothing that it does. -/
  | misuse
  /-- A failure was reported. -/
  | failure
  | accident (accident : Accident)
deriving DecidableEq, Repr

/-- Lines that are shown and notes for the log, both in order, and a result or an early end. -/
structure Activity (α : Type) where
  lines : List String
  notes : List Log.Note
  result : Except Ending α

namespace Activity

variable {α β : Type}

/-- Nothing but a result. -/
protected def pure (value : α) : Activity α :=
  ⟨[], [], .ok value⟩

/-- One activity, and then another unless the first one ends early. -/
protected def bind (first : Activity α) (next : α → Activity β) : Activity β :=
  match first.result with
  | .error ending => ⟨first.lines, first.notes, .error ending⟩
  | .ok value =>
    let second := next value
    ⟨first.lines ++ second.lines, first.notes ++ second.notes, second.result⟩

instance : Monad Activity where
  pure := Activity.pure
  bind := Activity.bind

/-- An early end. -/
def stop (ending : Ending) : Activity α :=
  ⟨[], [], .error ending⟩

/-- Shows lines, unless an accident keeps them from being made. -/
def showLines : Except Accident (List String) → Activity Unit
  | .ok lines => ⟨lines, [], .ok ()⟩
  | .error accident => stop (.accident accident)

/-- Shows the lines of a marked text. -/
def print (markup : String) : Activity Unit :=
  showLines (Console.shownLines markup)

/-- Shows the lines of marked texts, one text after another. -/
def printAll : List String → Activity Unit
  | [] => pure ()
  | markup :: rest => do
    print markup
    printAll rest

/-- Writes notes into the log. -/
def log (notes : List Log.Note) : Activity Unit :=
  ⟨[], notes, .ok ()⟩

/-- A result as it is; a fault is shown and ends the activity. -/
def attempt : Except Trouble α → Activity α
  | .ok value => pure value
  | .error (.accident accident) => stop (.accident accident)
  | .error (.fault fault) => do
    print ("\nError: " ++ Console.escape fault.text)
    stop .failure

/-- The same activity with the notes from a level on. -/
def withThreshold (threshold : Nat) (activity : Activity α) : Activity α :=
  { activity with notes := Log.shown threshold activity.notes }

/-- The code that a run ends with. -/
def exitCode (activity : Activity α) : Nat :=
  match activity.result with
  | .ok _ => 0
  | .error .misuse => 2
  | .error .failure => 1
  | .error (.accident _) => 1

/-- The accident that a run ends with. -/
def accident? (activity : Activity α) : Option Accident :=
  match activity.result with
  | .error (.accident accident) => some accident
  | _ => none

end Activity

end AppSync.Command
