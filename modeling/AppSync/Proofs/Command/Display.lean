import AppSync.Command.Display
import AppSync.Proofs.Command.Activity
import AppSync.Proofs.Path

/-! What the commands show themselves is always shown; only names they are given can be marks. -/

namespace AppSync

namespace Command

open Activity

/-- A text with a number has no opening bracket if its label has none. -/
theorem clear_labelled {label : String} (clear : '[' ∉ label.toList) (number : Nat) :
    '[' ∉ (label ++ toString number).toList := by
  rw [String.toList_append, List.mem_append, not_or]
  refine ⟨clear, fun inside => ?_⟩
  change '[' ∈ (Nat.repr number).toList at inside
  rw [Nat.toList_repr] at inside
  -- A number is written in digits.
  exact absurd (Nat.isDigit_of_mem_toDigits (by decide) (by decide) inside) (by decide)

/-- The names of root types have no opening brackets. -/
theorem clear_roots (schema : Schema) :
    '[' ∉ ("  Roots: " ++ String.intercalate ", " (schema.roots.map Root.name)).toList := by
  unfold Schema.roots Schema.presentRoots
  -- There are three root types, each of which is present or absent.
  generalize (fun root => schema.operations.any fun operation => decide (operation.root = root)) =
    isPresent
  simp only [Root.all, List.filter]
  cases isPresent .query <;> cases isPresent .mutation <;> cases isPresent .subscription <;>
    decide +kernel

/-- The size of a schema is shown. -/
theorem result_showSummary (report : Report) : (showSummary report).result = .ok () := by
  have last : (print "").result = .ok () := result_print (by simp)
  -- What was left out is counted in a line of its own, if anything was.
  have excluded : (if report.excluded ≠ 0 then
      print s!"  Excluded: {report.excluded}" >>= fun _ => print ""
      else print "").result = .ok () := by
    split
    · exact result_bind_eq_ok.mpr ⟨(), result_print (clear_labelled (by decide) _), last⟩
    · exact last
  unfold showSummary
  -- The lines are shown one after another, and two of them only where they say something.
  refine result_bind_eq_ok.mpr ⟨(), result_print (clear_labelled (by decide) _), ?_⟩
  refine result_bind_eq_ok.mpr ⟨(), result_print (clear_labelled (by decide) _), ?_⟩
  dsimp only
  split
  · exact result_bind_eq_ok.mpr ⟨(), result_print (clear_roots report.schema), excluded⟩
  · exact excluded

/-- That a schema holds nothing is shown. -/
theorem result_showEmptiness (report : Report) : (showEmptiness report).result = .ok () := by
  unfold showEmptiness
  split
  · exact result_print (by decide)
  · rfl

/-- The verdict is no failure exactly if no diagnostic is more than a note. -/
theorem result_showVerdict_eq_ok {diagnostics : List Diagnostic} :
    (showVerdict diagnostics).result = .ok () ↔ Diagnostic.anyWarning diagnostics = false := by
  have praise : (print "No problems found").result = .ok () := result_print (by decide)
  unfold showVerdict
  cases Diagnostic.anyWarning diagnostics with
  | false => simpa using praise
  | true => simp [result_bind_eq_ok, stop]

/-- The line on a document has no opening bracket if neither its directory nor its name has one. -/
theorem clear_previewLine {directory : Path} {name : PlainName}
    (clearDirectory : '[' ∉ directory.toString.toList) (clearName : '[' ∉ name.1.toList)
    (tag text : String) :
    '[' ∉ (previewLine (Writing.documentFor directory name tag text)).toList := by
  have clearTarget : '[' ∉ (directory.entry name.1).toString.toList := by
    intro inside
    -- Between the directory and the name stands a separator at most.
    rw [Path.entry_plainName] at inside
    rcases Path.mem_toString_below inside with inside | inside | same | same
    · exact clearDirectory inside
    · exact clearName inside
    · exact absurd same (by decide)
    · exact absurd same (by decide)
  have front : '[' ∉ ("  - " ++ (directory.entry name.1).toString ++ " (").toList := by
    simp only [String.toList_append, List.mem_append, not_or]
    exact ⟨⟨by decide, clearTarget⟩, by decide⟩
  -- Behind the path there is the number of characters, and nothing else that varies.
  have line : previewLine (Writing.documentFor directory name tag text) =
      "  - " ++ (directory.entry name.1).toString ++ " (" ++ toString text.length ++ " bytes)" :=
    rfl
  rw [line, String.toList_append, List.mem_append, not_or]
  exact ⟨clear_labelled front text.length, by decide⟩

/-- The preview is shown if each document is. -/
theorem result_showPreview {documents : List Writing.Document}
    (each : ∀ document ∈ documents, (print (previewLine document)).result = .ok ()) :
    (showPreview documents).result = .ok () := by
  have lines : ∀ line ∈ documents.map previewLine, (print line).result = .ok () := by
    simpa using each
  refine result_bind_eq_ok.mpr ⟨(), result_print (by decide), ?_⟩
  exact result_bind_eq_ok.mpr ⟨(), result_print (by decide), result_printAll lines⟩

end Command

end AppSync
