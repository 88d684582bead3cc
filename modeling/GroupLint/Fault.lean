import GroupLint.Console
import GroupLint.Pattern.Basic
import GroupLint.Syntax.Call
import GroupLint.Syntax.Concrete
import GroupLint.Notice
import GroupLint.Value.Toml.Fault

/-!
Everything that can stop a run, by cause.
-/
namespace GroupLint

inductive FileFault where
  | missing
  | isDirectory
  | notDirectory
  /-- A directory on the way may not be searched, or the file not be read. -/
  | denied
  /-- Too many links on the way, as when they lead back to themselves. -/
  | linkLoop
  | nullInPath
deriving DecidableEq, Repr

def FileFault.message (path : String) : FileFault → String
  | .missing => "[Errno 2] No such file or directory: " ++ Text.quoted path
  | .isDirectory => "[Errno 21] Is a directory: " ++ Text.quoted path
  | .notDirectory => "[Errno 20] Not a directory: " ++ Text.quoted path
  | .denied => "[Errno 13] Permission denied: " ++ Text.quoted path
  | .linkLoop => "[Errno 40] Too many levels of symbolic links: " ++ Text.quoted path
  | .nullInPath => "embedded null byte"

inductive SettingsFault where
  | notFound (path : String)
  | unreadable (path : String) (why : FileFault)
  | malformed (path : String)
deriving DecidableEq, Repr

def SettingsFault.message : SettingsFault → String
  | .notFound path => "Config file not found: " ++ path
  | .unreadable path why => "Could not read config file " ++ path ++ ": " ++ why.message path
  | .malformed path => "Could not read config file " ++ path ++ ": <toml error>"

inductive Fault where
  | pattern (f : PatternFault)
  | call (f : CallFault)
  | emptySlot
  /-- A match captured another number of slots than its pattern has captures. -/
  | captureCount
  | notTable
  | notSequence
  | noEntries
  | illFormedText
  | parse (f : SyntaxFault)
  | settings (f : SettingsFault)
  | settingsText (f : Toml.Fault)
  | file (f : FileFault)
  | circularPath
  | markup (f : MarkupFault)
  | noTree
deriving DecidableEq, Repr

/-- A computation that may stop with a fault; notices given before the stop are kept. -/
abbrev Run := ExceptT Fault Logged

namespace Run

def tell (ns : List Notice) : Run Unit := ExceptT.lift (Logged.tell ns)

def outcome (x : Run α) : Logged (Except Fault α) := x.run

end Run
end GroupLint
