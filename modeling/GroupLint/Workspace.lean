import GroupLint.FileTree
import GroupLint.Value.Basic

/-!
The world that a run sees, and what it can ask of it.
-/
namespace GroupLint

/-- The world a run sees: files, the current directory and the place of the settings that hold for
every project, and what other programs do for it. The grammar gives the concrete tree of a source text,
`readTable` the table that a settings text writes down, and the console prints marked-up text. -/
structure Workspace where
  files : FileTree
  current : Location
  globalSettings : Location
  grammar : String → Option Concrete
  readTable : List Char → Except Toml.Fault Table
  console : Console

namespace Workspace

def origin (w : Workspace) (p : Path) : Location := p.origin w.current

def follow (w : Workspace) (p : Path) : Except FileFault (Location × Item) :=
  if p.hasNull then .error .nullInPath else w.files.follow FileTree.maxLinks (w.origin p) p.names

/-- What is found at a path. A path that leads nowhere gives nothing, but one that is denied is a fault. -/
def look (w : Workspace) (p : Path) : Except FileFault (Option (Location × Item)) :=
  match w.follow p with
  | .ok found => .ok (some found)
  | .error .denied => .error .denied
  | .error _ => .ok none

def isFile (w : Workspace) (p : Path) : Except FileFault Bool :=
  (w.look p).map fun
    | some (_, .file _ _) => true
    | _ => false

def directory? (w : Workspace) (p : Path) : Except FileFault (Option Location) :=
  (w.look p).map fun
    | some (l, .directory _ _) => some l
    | _ => none

def read (w : Workspace) (p : Path) : Except FileFault (List UInt8) :=
  match w.follow p with
  | .ok (_, i) =>
    if i.isReadable then
      match i with
      | .file _ content => .ok content
      | .directory _ _ => .error .isDirectory
    else .error .denied
  | .error e => .error e

/-- The location a path stands for, whether or not anything is there. Links that lead back to themselves
are a fault only if following the path meets them too. -/
def resolve (w : Workspace) (p : Path) : Except FileFault Location :=
  if p.hasNull then .error .nullInPath
  else
    let l := w.files.resolve (w.origin p) p.names
    match w.files.follow FileTree.maxLinks [] l with
    | .error .linkLoop => .error .linkLoop
    | _ => .ok l

end Workspace
end GroupLint
