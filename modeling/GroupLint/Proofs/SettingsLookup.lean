import GroupLint.Proofs.SettingsFaults
import Mathlib.Data.List.Infix

/-! Which settings hold in a directory. The file that counts is the nearest one at or above it, and the
directories further up are not looked at. If that file is broken, or there is none, the global one
counts, and after it the defaults. -/
namespace GroupLint

namespace Settings
open Text

/-- The way to the settings of a directory ends at a file. Another directory of that name is none. -/
def HasSettings (w : Workspace) (dir : Location) : Prop :=
  ∃ place canRead content, w.follow (settingsPath dir) = .ok (place, .file canRead content)

/-- A search from a start comes to a directory at or above it: none on the way there has settings. -/
structure ComesTo (w : Workspace) (start dir : Location) : Prop where
  above : dir <+: start
  none_before : ∀ d, dir <+: d → d <+: start → d ≠ dir → ¬ HasSettings w d

/-- The directory with a settings file that is closest to a start, at or above it. -/
inductive IsNearest (w : Workspace) (start : Location) : Option Location → Prop
  | found {dir : Location} : ComesTo w start dir → HasSettings w dir → IsNearest w start (some dir)
  | nowhere : (∀ d, d <+: start → ¬ HasSettings w d) → IsNearest w start none

section Nearest
variable {w w' : Workspace} {start dir d : Location} {name : String} {nearest other : Option Location}

theorem ComesTo.self (w : Workspace) (start : Location) : ComesTo w start start where
  above := List.prefix_rfl
  none_before _ hd hd' hne := absurd (hd'.eq_of_length_le hd.length_le) hne

theorem ComesTo.below (h : ComesTo w start dir) (hnone : ¬ HasSettings w (start ++ [name])) :
    ComesTo w (start ++ [name]) dir where
  above := h.above.trans (List.prefix_append _ _)
  none_before d hd hd' hne := by
    rcases List.prefix_concat_iff.mp hd' with rfl | hd'
    · exact hnone
    · exact h.none_before d hd hd' hne

/-- Of two directories above a start, a search comes to the closer one first. -/
theorem ComesTo.prefix_of_hasSettings (h : ComesTo w start dir) (hd : d <+: start)
    (hhas : HasSettings w d) : d <+: dir := by
  rcases List.prefix_or_prefix_of_prefix hd h.above with hup | hdown
  · exact hup
  · by_contra hnot
    refine h.none_before d hdown hd ?_ hhas
    rintro rfl
    exact hnot List.prefix_rfl

theorem IsNearest.unique (h : IsNearest w start nearest) (h' : IsNearest w start other) :
    other = nearest := by
  cases h with
  | found hcomes hhas =>
    cases h' with
    | found hcomes' hhas' =>
      have hup := hcomes.prefix_of_hasSettings hcomes'.above hhas'
      have hdown := hcomes'.prefix_of_hasSettings hcomes.above hhas
      rw [hup.eq_of_length_le hdown.length_le]
    | nowhere hnone => exact absurd hhas (hnone _ hcomes.above)
  | nowhere hnone =>
    cases h' with
    | found hcomes' hhas' => exact absurd hhas' (hnone _ hcomes'.above)
    | nowhere _ => rfl

theorem IsNearest.below (h : IsNearest w start nearest) (hnone : ¬ HasSettings w (start ++ [name])) :
    IsNearest w (start ++ [name]) nearest := by
  cases h with
  | found hcomes hhas => exact .found (hcomes.below hnone) hhas
  | nowhere hnowhere =>
    refine .nowhere fun d hd => ?_
    rcases List.prefix_concat_iff.mp hd with rfl | hd
    · exact hnone
    · exact hnowhere d hd

end Nearest

def ignored (w : Workspace) (p : Path) : Notice :=
  .settingsIgnored <| SettingsFault.message <|
    match w.read p with
    | .ok _ => .malformed p.toString
    | .error why => .unreadable p.toString why

def globalPath (w : Workspace) : Path := Path.ofLocation w.globalSettings

section Files
variable {w w' : Workspace} {p : Path} {ps : List Path}

end Files
section Agree
variable {w w' : Workspace} {start : Path} {place dir d : Location}

end Agree

section Load
variable {w w' : Workspace} {start : Path} {place dir : Location} {nearest : Option Location}

end Load

end Settings
end GroupLint
