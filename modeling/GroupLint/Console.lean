/-!
The console that a run prints on. It takes markup, in which a tag between brackets sets a style; text
is escaped first if it is to be printed as it is.
-/
namespace GroupLint

inductive StyleFault where
  | missingDigits
deriving DecidableEq, Repr

def StyleFault.message : StyleFault → String
  | .missingDigits => "invalid literal for int() with base 10: ''"

inductive MarkupFault where
  | nothingToClose
  | illFormedParameters
  | style (f : StyleFault)
deriving DecidableEq, Repr

/-- What markup puts on a console, as a line of its own or as the cells of a grid that has a title and a
heading. -/
structure Console where
  escape : List Char → List Char
  print : List Char → Except MarkupFault String
  grid : String → List (List Char) → List (List (List Char)) → Except MarkupFault String

end GroupLint
