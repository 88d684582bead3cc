import GroupLint.Fault
import GroupLint.Path

/-!
A file system as a value: every entry below the root by its location, the list of names that lead
to it. Two dots lead to the enclosing directory. Only a directory can be passed through, and only one
that may be searched; a link stands for the place its own path leads to.
-/
namespace GroupLint

/-- A directory or a file, with what a run may do with it. -/
inductive Item where
  | directory (canList canSearch : Bool)
  | file (canRead : Bool) (content : List UInt8)
deriving DecidableEq, Repr, Inhabited

def Item.isReadable : Item → Bool
  | .directory canList _ => canList
  | .file canRead _ => canRead

inductive Entry where
  | item (i : Item)
  | link (target : Path)
deriving DecidableEq, Repr, Inhabited

namespace Entry

-- Most directories may be listed and searched, and most files read.
def directory : Entry := .item (.directory true true)

def file (content : List UInt8) : Entry := .item (.file true content)

end Entry

abbrev Location := List String

def Path.origin (p : Path) (here : Location) : Location := if p.slashes = 0 then here else []

structure FileTree where
  entries : List (Location × Entry)
deriving Inhabited

namespace FileTree

def entryAt? (t : FileTree) (l : Location) : Option Entry :=
  if l.isEmpty then some .directory else t.entries.lookup l

def step (here : Location) (name : String) : Location :=
  if name == "" || name == "." then here
  else if name == ".." then here.dropLast
  else here ++ [name]

def enter (t : FileTree) (here : Location) (name : String) : Except FileFault Location :=
  match t.entryAt? here with
  | some (.item (.directory _ canSearch)) => if canSearch then .ok (step here name) else .error .denied
  | some _ => .error .notDirectory
  | none => .error .missing

section Follow
variable (t : FileTree)

/-- Where names lead and what is there. A link hands its own names and those left over to `onLink`. -/
def followWith (onLink : Location → List String → Except FileFault (Location × Item))
    (here : Location) : List String → Except FileFault (Location × Item)
  | [] =>
    match t.entryAt? here with
    | some (.item i) => .ok (here, i)
    | _ => .error .missing
  | name :: r =>
    match t.enter here name with
    | .error e => .error e
    | .ok next =>
      match t.entryAt? next with
      | some (.link target) => onLink (target.origin here) (target.names ++ r)
      | _ => followWith onLink next r

def follow : Nat → Location → List String → Except FileFault (Location × Item)
  | 0 => followWith t fun _ _ => .error .linkLoop
  | links + 1 => followWith t (follow links)

def maxLinks : Nat := 40

end Follow

section Resolve
variable (t : FileTree)

def reaches (l : Location) : Bool :=
  (List.range l.length).all fun i =>
    match t.entryAt? (l.take i) with
    | some (.item (.directory _ canSearch)) => canSearch
    | _ => false

def link? (l : Location) : Option Path :=
  match t.entryAt? l with
  | some (.link target) => if t.reaches l then some target else none
  | _ => none

/-- Where names lead when links are replaced by what they stand for, whether or not anything is there.
`ofLink` tells where a link leads; false means that it leads back to itself, and the names that are
left are then taken as they are. -/
def resolveWith (ofLink : Location → Location → Path → Location × Bool) (here : Location) :
    List String → Location × Bool
  | [] => (here, true)
  | name :: r =>
    let next := step here name
    match t.link? next with
    | none => resolveWith ofLink next r
    | some target =>
      match ofLink here next target with
      | (l, true) => resolveWith ofLink l r
      | (l, false) => (r.foldl step l, false)

def resolveFrom : Nat → List Location → Location → List String → Location × Bool
  | 0, _ => resolveWith t fun _ link _ => (link, false)
  | fuel + 1, pending => resolveWith t fun here link target =>
    if pending.contains link then (link, false)
    else resolveFrom fuel (link :: pending) (target.origin here) target.names

/-- Links that are pending differ, so that there are never more of them than entries. -/
def resolve (here : Location) (names : List String) : Location :=
  (t.resolveFrom (t.entries.length + 1) [] here names).1

end Resolve

def put (t : FileTree) (l : Location) (e : Entry) : FileTree :=
  ⟨(t.entries.filter fun x => x.1 != l) ++ [(l, e)]⟩

def makeDirectories (t : FileTree) (here : Location) :
    List String → Except FileFault (FileTree × Location)
  | [] => .ok (t, here)
  | name :: r =>
    let next := step here name
    match t.entryAt? next with
    | some (.item (.directory _ _)) => makeDirectories t next r
    | some _ => .error .notDirectory
    | none => makeDirectories (t.put next .directory) next r

def erase (t : FileTree) (l : Location) : FileTree :=
  ⟨t.entries.filter fun e => !l.isPrefixOf e.1⟩

/-- Whether the listing of a directory comes to an entry below it: directories on the way must be
listed, and all but the last of them searched. -/
def lists (t : FileTree) (dir : Location) : List String → Bool
  | [] => true
  | name :: r =>
    match t.entryAt? dir with
    | some (.item (.directory canList canSearch)) =>
      canList && (r.isEmpty || canSearch) && t.lists (dir ++ [name]) r
    | _ => false

def rubyEntries (t : FileTree) (dir : Location) : List (List String) :=
  ((t.entries.filterMap fun e =>
      if dir.isPrefixOf e.1 then some (e.1.drop dir.length) else none).filter fun names =>
    (names.getLast?.any fun n => n.endsWith ".rb") && t.lists dir names).mergeSort namesLE

end FileTree

end GroupLint
