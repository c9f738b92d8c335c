import AppSync.Schema.Directive
import AppSync.Text.Choice

/-! Authorization modes, and the directive that each of them calls for. -/

namespace AppSync

/-- How a caller proves who it is. -/
inductive Authorization where
  | apiKey
  | userPools
  | iam
  | openIdConnect
  | lambda
deriving DecidableEq, Repr

namespace Authorization

/-- The name of a mode's directive. -/
def word : Authorization → String
  | apiKey => "aws_api_key"
  | userPools => "aws_cognito_user_pools"
  | iam => "aws_iam"
  | openIdConnect => "aws_oidc"
  | lambda => "aws_lambda"

/-- The mode that a word names. -/
def ofWord (word : String) : Except UnknownChoice Authorization :=
  chosen "AuthMode" Authorization.word [apiKey, userPools, iam, openIdConnect, lambda] word

/-- The word for a mode can name a directive. -/
theorem word_isIdentifier (mode : Authorization) : Text.isIdentifier mode.word = true := by
  cases mode <;> decide +kernel

/-- The arguments of a mode's directive: only user pools are narrowed to groups. -/
def arguments (mode : Authorization) (groups : List String) : List (String × DirectiveValue) :=
  if mode = .userPools ∧ groups ≠ [] then [("cognito_groups", .texts groups)] else []

/-- No argument of a mode's directive is a number. -/
theorem arguments_bounded (mode : Authorization) (groups : List String) :
    ∀ argument ∈ mode.arguments groups, argument.2.isBounded = true := by
  intro argument member
  unfold arguments at member
  split at member
  · have same := List.mem_singleton.1 member
    subst same
    rfl
  · simp at member

/-- The directive of a mode. -/
def directive (mode : Authorization) (groups : List String) : Directive :=
  ⟨mode.word, mode.arguments groups, mode.word_isIdentifier, mode.arguments_bounded groups⟩

end Authorization

end AppSync
