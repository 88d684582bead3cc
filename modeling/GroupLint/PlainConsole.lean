import GroupLint.Grid
import GroupLint.Text.Markup

/-!
A console without colour: tags print nothing, and tabs become spaces.
-/
namespace GroupLint

namespace Markup

def printLine (markup : List Char) : Except MarkupFault String :=
  (render markup).map fun cs =>
    String.ofList ((Text.newlineLines cs).flatMap fun line => Text.expandTabs line ++ ['\n'])

def printGrid (title : String) (heading : List (List Char)) (rows : List (List (List Char))) :
    Except MarkupFault String := do
  let rows ← rows.mapM fun cells => cells.mapM render
  return title ++ "\n" ++ Grid.render ⟨heading, rows⟩

end Markup

def Console.plain : Console := ⟨Markup.escape, Markup.printLine, Markup.printGrid⟩

end GroupLint
