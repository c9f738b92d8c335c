import AppSync.Proofs.Sdl.RoundTrip
import Mathlib

/-! Printed literals and reasons of deprecations are parsed, each by itself, as what they say. -/

namespace AppSync.Sdl

/-- A constant has the kind of a literal and its value, or the text that a decimal is printed as. -/
inductive Literal.Says : Literal → DirectiveValue → Prop where
  | text (value : String) : Says (.string value) (.text value)
  | flag (value : Bool) : Says (.boolean value) (.flag value)
  | integer {digits : String} {value : Int} (read : digits.toInt? = some value) :
    Says (.integer digits) (.integer value)
  | decimal (value : Binary64) : Says (.decimal value.text) (.decimal value)
  | texts (values : List String) : Says (.list (values.map .string)) (.texts values)

/-- What a literal stands for as a constant says what the literal does. -/
theorem says_constantOf (value : DirectiveValue) : (constantOf value).Says value := by
  cases value with
  | text value => exact .text value
  | flag value => exact .flag value
  | integer value => exact .integer (Int.toInt?_repr value)
  | decimal value => exact .decimal value
  | texts values => exact .texts values

/-- What reads all the tokens of a text reads the text, and leaves nothing of it. -/
theorem Scans.run_eq {α : Type} {parser : Parser α} {value : α} {text : List Char}
    {tokens : List Token} (scans : Scans text tokens [])
    (reads : Reads True parser (tokens ++ [.finish]) value [.finish]) :
    parser (lex text) = .ok (value, [.finish]) := by
  rw [scans.lex_eq]
  exact (reads.run scans.clean_finish).1

/-- A literal without halves of characters is parsed as the constant that it stands for. -/
theorem constant_literal {value : DirectiveValue} (bounded : value.isBounded = true)
    (whole : WholeValue value) :
    Parser.constant (lex (literal value).toList) = .ok (constantOf value, [.finish]) := by
  have shows := showsValue bounded whole
  have scans := (Shows.value shows).scans
  rw [View.see_plain] at scans
  exact scans.run_eq (Literal.reads_literalWithin shows.fits (fun _ => Nat.le_refl _) _)

/-- A reason without halves of characters is parsed as the argument of its mark. -/
theorem annotations_deprecation {reason : String} (said : reason ≠ "")
    (whole : Text.hasHalves reason = false) :
    Parser.annotations true (lex (deprecation (some reason)).toList) =
      .ok ([⟨"deprecated", [("reason", .string reason)]⟩], [.finish]) := by
  have shows := showsDeprecation fun _ : true = true => ⟨reason, rfl, said, whole⟩
  have scans := (Shows.deprecation shows).scans
  rw [View.see_plain] at scans
  exact scans.run_eq (Applied.reads_annotations shows.fits (by simp [Lacks]))

/-- Each literal and each reason is parsed as one constant, which says what is printed. -/
theorem parses_printed :
    (∀ value : DirectiveValue, value.isBounded = true → WholeValue value →
      ∃ constant, Parser.constant (lex (literal value).toList) = .ok (constant, [.finish]) ∧
        constant.Says value) ∧
    (∀ reason : String, reason ≠ "" → Text.hasHalves reason = false →
      Parser.annotations true (lex (deprecation (some reason)).toList) =
        .ok ([⟨"deprecated", [("reason", .string reason)]⟩], [.finish])) :=
  ⟨fun value bounded whole => ⟨constantOf value, constant_literal bounded whole,
      says_constantOf value⟩,
    fun _ said whole => annotations_deprecation said whole⟩

/-- Texts with a character beyond the first plane, a control character and what is escaped. -/
def trickyValue : DirectiveValue :=
  .texts ["😀\x7f", "say \"\\\""]

/-- A reason on two lines, with quotes. -/
def trickyReason : String :=
  "Use \"labels\",\nnot this."

/-- The texts and the reason are parsed as they are. -/
theorem parses_printed_tricky :
    (trickyValue.isBounded = true ∧ WholeValue trickyValue ∧
      ∃ constant, Parser.constant (lex (literal trickyValue).toList) = .ok (constant, [.finish]) ∧
        constant.Says trickyValue) ∧
    trickyReason ≠ "" ∧ Text.hasHalves trickyReason = false ∧
      Parser.annotations true (lex (deprecation (some trickyReason)).toList) =
        .ok ([⟨"deprecated", [("reason", .string trickyReason)]⟩], [.finish]) := by
  have listed : WholeValue trickyValue := by
    unfold trickyValue WholeValue
    decide +kernel
  have said : trickyReason ≠ "" := by decide
  have whole : Text.hasHalves trickyReason = false := by decide +kernel
  exact ⟨⟨rfl, listed, parses_printed.1 _ rfl listed⟩, said, whole, parses_printed.2 _ said whole⟩

end AppSync.Sdl
