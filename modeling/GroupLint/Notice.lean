import GroupLint.Text.Quoted

/-!
What a run tells about itself besides its answer, and values that come with such notices.
-/
namespace GroupLint

inductive Level where
  | debug
  | warning
deriving DecidableEq, Repr

def Level.name : Level → String
  | .debug => "DEBUG"
  | .warning => "WARNING"

inductive Notice where
  | grammarReady
  | settingsLoaded (path : String)
  | settingsIgnored (reason : String)
  | namesExpected (option : String)
  | metadataNotTable (sort : String)
  | metadataEntrySkipped (key : String)
  | groupExempt (source : String) (line : Int)
  | noSuchPath (path : String)
  | unparsable (reason : String)
  | fileChecked (path : String) (offenses : Nat)
deriving DecidableEq, Repr

namespace Notice

def level : Notice → Level
  | .grammarReady | .settingsLoaded _ | .groupExempt _ _ | .fileChecked _ _ => .debug
  | _ => .warning

def message : Notice → String
  | .grammarReady => "Loaded tree-sitter parser for ruby"
  | .settingsLoaded path => "Loaded config from " ++ path
  | .settingsIgnored reason => "Ignoring config: " ++ reason
  | .namesExpected option =>
    "Language." ++ option ++ " should be a list of method names; using defaults"
  | .metadataNotTable sort =>
    "IgnoredMetadata should be a table, got " ++ sort ++ "; no metadata will be ignored"
  | .metadataEntrySkipped key =>
    "IgnoredMetadata[" ++ Text.quoted key ++ "] is not a list of values; ignoring it"
  | .groupExempt source line =>
    source ++ ":" ++ toString line ++ ": describe skipped by ignored metadata"
  | .noSuchPath path => "No such file or directory: " ++ path
  | .unparsable reason => "Failed to parse " ++ reason
  | .fileChecked path offenses => path ++ ": " ++ toString offenses ++ " offense(s)"

end Notice

/-- A value and the notices given on the way to it. -/
structure Logged (α : Type) where
  notices : List Notice
  value : α

namespace Logged

instance : Monad Logged where
  pure a := ⟨[], a⟩
  bind x f := ⟨x.notices ++ (f x.value).notices, (f x.value).value⟩

instance : LawfulMonad Logged := LawfulMonad.mk' Logged
  (fun x => by cases x; simp [Functor.map])
  (fun x f => by simp [bind, pure])
  (fun x f g => by simp [bind, List.append_assoc])

def tell (ns : List Notice) : Logged Unit := ⟨ns, ()⟩

def atLevel (debug : Bool) (x : Logged α) : Logged α :=
  ⟨x.notices.filter fun n => debug || n.level == .warning, x.value⟩

end Logged
end GroupLint
