/-!
Why a settings text gives no table.
-/
namespace GroupLint.Toml

inductive Fault where
  | malformed
  /-- The text, a list or a name ends where something must follow. -/
  | cutShort
  /-- A name is looked up or set in a value that has no names. -/
  | noNames
  | codePointTooLarge
  | namelessBlock
deriving DecidableEq, Repr

end GroupLint.Toml
