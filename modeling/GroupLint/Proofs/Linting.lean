import GroupLint.Linter
import GroupLint.PlainConsole
import GroupLint.Proofs.LoweredCalls

/-! What checking a source comes to. The notices of a run do not change its outcome, so that it is the
outcome of the rule on the tree of the source. -/
namespace GroupLint
open Node

namespace Run

theorem value_bind (x : Run α) (f : α → Run β) :
    (x >>= f).outcome.value = x.outcome.value >>= fun a => (f a).outcome.value := by
  obtain ⟨ns, e | a⟩ := x <;> rfl

theorem value_mk (x : Except Fault α) : (outcome (ExceptT.mk (pure x))).value = x := rfl

end Run

theorem Rule.value_check (r : Rule) (path : Option String) (root : Slot) :
    (r.check path root).outcome.value = r.investigate path root := by
  rw [check, Run.value_bind]
  rfl

namespace Linter

theorem value_lintSource (l : Linter) (w : Workspace) (path : Option String) (cs : List Char) :
    (l.lintSource w path cs).outcome.value = parseSource w path cs >>= l.rule.investigate path := by
  rw [lintSource, Run.value_bind, Run.value_mk]
  simp only [Rule.value_check]

theorem value_ofSettings_defaults : (ofSettings (.table Settings.defaults)).outcome.value =
    .ok ⟨⟨.standard, .standard⟩, Settings.defaultIncludes, Settings.defaultExcludes⟩ := rfl

def lintDefaults (w : Workspace) (path : Option String) (cs : List Char) : Run (List Offense) := do
  let l ← ofSettings (.table Settings.defaults)
  l.lintSource w path cs

section Defaults
variable {w : Workspace} {cs : List Char} {tree : Concrete}
  (ht : w.grammar (String.ofList cs) = some tree) (he : tree.hasError = false)
include ht he

theorem parseSource_of_unflagged (path : Option String) :
    parseSource w path cs = .ok (tree.toNode (Text.Utf8.encode cs)) := by
  simp [parseSource, ht, Concrete.parse, he]

theorem value_lintDefaults (path : Option String) :
    (lintDefaults w path cs).outcome.value =
      (Rule.mk .standard .standard).investigate path (tree.toNode (Text.Utf8.encode cs)) := by
  rw [lintDefaults, Run.value_bind, value_ofSettings_defaults]
  change (lintSource _ w path cs).outcome.value = _
  rw [value_lintSource, parseSource_of_unflagged ht he]
  rfl

end Defaults

/-- A source without mistakes is checked to its end if every block of its tree opens a call. Else the
check fails, and some concrete block does not begin with a call. -/
theorem lintDefaults_ok_or_stray (w : Workspace) (path : Option String) (cs : List Char)
    (tree : Concrete) (ht : w.grammar (String.ofList cs) = some tree)
    (hflags : ∀ d ∈ tree.nodes, d.hasError = false ∧ d.isMissing = false)
    (hreg : tree.Regular (Text.Utf8.encode cs)) :
    (BlocksOpenCalls (tree.toNode (Text.Utf8.encode cs)) →
      ∃ offenses, (lintDefaults w path cs).outcome.value = .ok offenses) ∧
    (¬ BlocksOpenCalls (tree.toNode (Text.Utf8.encode cs)) →
      (lintDefaults w path cs).outcome.value = .error (.call (.blockWithoutCall "block")) ∧
      ∃ d ∈ tree.nodes, d.kind = "block" ∧ ¬ d.beginsWithCall (Text.Utf8.encode cs)) := by
  have hgiven := describesGiven_toNode hreg
  rw [value_lintDefaults ht (hflags tree tree.mem_nodes_self).1]
  refine ⟨fun hb => ⟨_, Rule.investigate_eq_filterMap _ path hb hgiven⟩, fun hb => ⟨?_, ?_⟩⟩
  · exact Rule.investigate_of_stray _ path hb hgiven
  · rw [blocksOpenCalls_iff] at hb
    obtain ⟨p, n, hn, hs⟩ := not_forall_not.mp hb
    exact concrete_of_stray hn hs

/-- A workspace without files, in which every source has the same tree. -/
def fileless (tree : Concrete) : Workspace where
  files := ⟨[]⟩
  current := []
  globalSettings := []
  grammar _ := some tree
  readTable _ := .error .malformed
  console := .plain

/-- A braced block on one line, after the head that opens it. -/
def braced (kind : String) (head : Concrete) (field : String) : Concrete :=
  let width := head.extent.stop
  .mk "program" true none ⟨0, width + 6, 0, 0⟩ false false
    [.mk kind true none ⟨0, width + 6, 0, 0⟩ false false
      [head, .mk "block" true (some field) ⟨width + 1, width + 6, 0, width + 1⟩ false false
        [.mk "\x7b" false none ⟨width + 1, width + 2, 0, width + 1⟩ false false [],
         .mk "block_body" true (some "body") ⟨width + 3, width + 4, 0, width + 3⟩ false false
          [.mk "integer" true none ⟨width + 3, width + 4, 0, width + 3⟩ false false []],
         .mk "\x7d" false none ⟨width + 5, width + 6, 0, width + 5⟩ false false []]]]

/-- The tree of `run { 1 }`. -/
def bracedCall : Concrete :=
  braced "call" (.mk "identifier" true (some "method") ⟨0, 3, 0, 0⟩ false false []) "block"

theorem lintDefaults_bracedCall :
    (∀ d ∈ bracedCall.nodes, d.hasError = false ∧ d.isMissing = false) ∧
      bracedCall.Regular (Text.Utf8.encode "run \x7b 1 \x7d".toList) ∧
      BlocksOpenCalls (bracedCall.toNode (Text.Utf8.encode "run \x7b 1 \x7d".toList)) ∧
      ∃ offenses, (lintDefaults (fileless bracedCall) none
        "run \x7b 1 \x7d".toList).outcome.value = .ok offenses := by
  have hflags : ∀ d ∈ bracedCall.nodes, d.hasError = false ∧ d.isMissing = false := by decide
  have hreg : bracedCall.Regular (Text.Utf8.encode "run \x7b 1 \x7d".toList) := by decide
  have hb : BlocksOpenCalls (bracedCall.toNode (Text.Utf8.encode "run \x7b 1 \x7d".toList)) := by decide
  refine ⟨hflags, hreg, hb, ?_⟩
  exact (lintDefaults_ok_or_stray _ none _ bracedCall rfl hflags hreg).1 hb

/-- The tree of `-> { 1 }`. -/
def bracedLambda : Concrete :=
  braced "lambda" (.mk "->" false none ⟨0, 2, 0, 0⟩ false false []) "body"

theorem lintDefaults_bracedLambda :
    (∀ d ∈ bracedLambda.nodes, d.hasError = false ∧ d.isMissing = false) ∧
      bracedLambda.Regular (Text.Utf8.encode "-> \x7b 1 \x7d".toList) ∧
      (lintDefaults (fileless bracedLambda) none
        "-> \x7b 1 \x7d".toList).outcome.value = .error (.call (.blockWithoutCall "block")) :=
  ⟨by decide, by decide, rfl⟩

end Linter
end GroupLint
