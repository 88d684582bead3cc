import GroupLint.Workspace
import Mathlib.Data.List.Induction
import Mathlib.Data.List.Nodup

/-! Walks through a tree of files. A walk goes on from where it has come to, so that what a path leads to
below a directory depends on the directory and the names that are left. -/
namespace GroupLint

structure IsName (name : String) : Prop where
  ne_empty : name ≠ ""
  ne_dot : name ≠ "."
  ne_dots : name ≠ ".."
  slash_not_mem : '/' ∉ name.toList
  null_not_mem : '\x00' ∉ name.toList

instance (name : String) : Decidable (IsName name) :=
  decidable_of_iff (name ≠ "" ∧ name ≠ "." ∧ name ≠ ".." ∧ '/' ∉ name.toList ∧ '\x00' ∉ name.toList)
    ⟨fun ⟨h1, h2, h3, h4, h5⟩ => ⟨h1, h2, h3, h4, h5⟩, fun ⟨h1, h2, h3, h4, h5⟩ => ⟨h1, h2, h3, h4, h5⟩⟩

namespace FileTree

def IsDirectory (t : FileTree) (l : Location) : Prop :=
  ∃ canList canSearch, t.entryAt? l = some (.item (.directory canList canSearch))

def CanList (t : FileTree) (l : Location) : Prop :=
  ∃ canSearch, t.entryAt? l = some (.item (.directory true canSearch))

def CanSearch (t : FileTree) (l : Location) : Prop :=
  ∃ canList, t.entryAt? l = some (.item (.directory canList true))

instance (t : FileTree) (l : Location) : Decidable (t.IsDirectory l) :=
  match h : t.entryAt? l with
  | some (.item (.directory canList canSearch)) => .isTrue ⟨canList, canSearch, h⟩
  | some (.item (.file _ _)) | some (.link _) | none => .isFalse (by simp [IsDirectory, h])

/-- A tree of files: no location has two entries, and every entry stands in a directory. -/
structure WellFormed (t : FileTree) : Prop where
  distinct : (t.entries.map Prod.fst).Nodup
  enclosed : ∀ e ∈ t.entries, t.IsDirectory e.1.dropLast
  named : ∀ e ∈ t.entries, ∀ name ∈ e.1, IsName name

instance (t : FileTree) : Decidable t.WellFormed :=
  decidable_of_iff ((t.entries.map Prod.fst).Nodup ∧ (∀ e ∈ t.entries, t.IsDirectory e.1.dropLast) ∧
      ∀ e ∈ t.entries, ∀ name ∈ e.1, IsName name)
    ⟨fun ⟨h1, h2, h3⟩ => ⟨h1, h2, h3⟩, fun ⟨h1, h2, h3⟩ => ⟨h1, h2, h3⟩⟩

variable {t : FileTree} {links : Nat} {here l : Location} {i : Item} {names : List String}

theorem entryAt?_ne_none_iff (hne : names ≠ []) :
    t.entryAt? (l ++ names) ≠ none ↔ ∃ e, (l ++ names, e) ∈ t.entries := by
  have hloc : ¬ (l ++ names).isEmpty := by simp [hne]
  rw [entryAt?, if_neg hloc, ne_eq, List.lookup_eq_none_iff]
  constructor
  · intro h
    by_contra hnone
    apply h
    rintro ⟨l, e⟩ he
    rw [bne_iff_ne]
    rintro rfl
    exact hnone ⟨e, he⟩
  · rintro ⟨e, he⟩ h
    simpa using h _ he

/-- Follows the names of a link, if one more link may be met. -/
def followLink (t : FileTree) : Nat → Location → List String → Except FileFault (Location × Item)
  | 0, _, _ => .error .linkLoop
  | links + 1, here, names => t.follow links here names

theorem follow_nil (t : FileTree) (links : Nat) (here : Location) : t.follow links here [] =
    match t.entryAt? here with
    | some (.item i) => .ok (here, i)
    | _ => .error .missing := by
  cases links <;> rfl

theorem follow_cons (t : FileTree) (links : Nat) (here : Location) (name : String)
    (names : List String) : t.follow links here (name :: names) =
    (t.enter here name).bind fun next =>
      match t.entryAt? next with
      | some (.link target) => t.followLink links (target.origin here) (target.names ++ names)
      | _ => t.follow links next names := by
  cases links <;>
  · rw [follow, followWith]
    cases t.enter here name <;> rfl

/-- A walk that goes on after it has come to a place has fewer links left, and is otherwise the walk
from there. -/
theorem follow_append {a : List String} (h : t.follow links here a = .ok (l, i)) :
    ∃ left, ∀ b, t.follow links here (a ++ b) = t.follow left l b := by
  -- On the links first, as one of them may have more names than it takes away.
  induction links using Nat.strongRecOn generalizing here a with
  | ind links ihlinks =>
    induction a generalizing here with
    | nil =>
      rw [follow_nil] at h
      split at h
      · obtain ⟨rfl, -⟩ := Prod.mk.inj (Except.ok.inj h)
        exact ⟨links, fun b => rfl⟩
      · cases h
    | cons name a ih =>
      simp only [List.cons_append, follow_cons] at h ⊢
      cases hnext : t.enter here name with
      | error e => simp [hnext, Except.bind] at h
      | ok next =>
        simp only [hnext, Except.bind] at h ⊢
        split at h
        · next target hlink =>
          cases links with
          | zero => cases h
          | succ links =>
            obtain ⟨left, hleft⟩ := ihlinks links (Nat.lt_succ_self links) h
            refine ⟨left, fun b => ?_⟩
            rw [← hleft b, List.append_assoc]
            rfl
        · next hlink =>
          obtain ⟨left, hleft⟩ := ih h
          refine ⟨left, fun b => ?_⟩
          rw [← hleft b]

theorem WellFormed.directory_above (ht : t.WellFormed) (hne : names ≠ [])
    (h : t.entryAt? (l ++ names) ≠ none) : t.IsDirectory l := by
  -- From the last name on, as an entry only says what it stands in.
  induction names using List.reverseRecOn with
  | nil => exact absurd rfl hne
  | append_singleton names name ih =>
    obtain ⟨e, he⟩ := (entryAt?_ne_none_iff hne).mp h
    have hparent : t.IsDirectory (l ++ names) := by
      have henclosed := ht.enclosed _ he
      rwa [← List.append_assoc, List.dropLast_concat] at henclosed
    cases names with
    | nil => rwa [List.append_nil] at hparent
    | cons first rest =>
      obtain ⟨canList, canSearch, hentry⟩ := hparent
      exact ih (by simp) (by simp [hentry])

theorem WellFormed.ne_link_above (ht : t.WellFormed) (hne : names ≠ [])
    (h : t.entryAt? (l ++ names) ≠ none) (target : Path) : t.entryAt? l ≠ some (.link target) := by
  obtain ⟨canList, canSearch, hentry⟩ := ht.directory_above hne h
  simp [hentry]

theorem WellFormed.isName_of_entryAt? (ht : t.WellFormed) (h : t.entryAt? (l ++ names) ≠ none) :
    ∀ name ∈ names, IsName name := by
  intro name hname
  obtain ⟨e, he⟩ := (entryAt?_ne_none_iff (List.ne_nil_of_mem hname)).mp h
  exact ht.named _ he name (List.mem_append_right l hname)

theorem step_of_isName {name : String} (h : IsName name) (here : Location) :
    step here name = here ++ [name] := by
  simp [step, h.ne_empty, h.ne_dot, h.ne_dots]

theorem enter_of_canSearch {name : String} (h : t.CanSearch here) (hname : IsName name) :
    t.enter here name = .ok (here ++ [name]) := by
  obtain ⟨canList, hentry⟩ := h
  rw [enter, hentry]
  exact congrArg Except.ok (step_of_isName hname here)

theorem enter_of_not_canSearch (name : String) (hdir : t.IsDirectory here) (h : ¬ t.CanSearch here) :
    t.enter here name = .error .denied := by
  obtain ⟨canList, canSearch, hentry⟩ := hdir
  cases canSearch with
  | true => exact absurd ⟨canList, hentry⟩ h
  | false => simp [enter, hentry]

/-- A walk that has come to a directory goes on to each place that may be searched from there. -/
theorem WellFormed.follow_through (ht : t.WellFormed) (links : Nat) (here : Location)
    {between rest : List String} (hne : rest ≠ []) (hentry : t.entryAt? (here ++ (between ++ rest)) ≠ none)
    (hsearch : ∀ a b, between = a ++ b → b ≠ [] → t.CanSearch (here ++ a)) :
    t.follow links here (between ++ rest) = t.follow links (here ++ between) rest := by
  induction between generalizing here with
  | nil => simp
  | cons name between ih =>
    have hname := ht.isName_of_entryAt? hentry name (by simp)
    have hhere : t.CanSearch here := by simpa using hsearch [] (name :: between) rfl (by simp)
    rw [List.cons_append, List.append_cons] at hentry
    have hlink := ht.ne_link_above (by simp [hne]) hentry
    rw [List.cons_append, follow_cons, enter_of_canSearch hhere hname,
      List.append_cons here name between]
    have hbelow : ∀ a b, between = a ++ b → b ≠ [] → t.CanSearch (here ++ [name] ++ a) := by
      intro a b hab hb
      simpa using hsearch (name :: a) b (by rw [hab]; rfl) hb
    rw [← ih (here ++ [name]) hentry hbelow, Except.bind]
    split
    · next target htarget => exact absurd htarget (hlink target)
    · rfl

theorem fault_of_follow {e : FileFault} (h : t.follow links here names = .error e) :
    e = .denied ∨ e = .missing ∨ e = .notDirectory ∨ e = .linkLoop := by
  induction links using Nat.strongRecOn generalizing here names with
  | ind links ihlinks =>
    induction names generalizing here with
    | nil =>
      rw [follow_nil] at h
      split at h
      · cases h
      · cases h
        simp
    | cons name names ih =>
      rw [follow_cons] at h
      cases hnext : t.enter here name with
      | error f =>
        obtain rfl : f = e := by simpa [hnext, Except.bind] using h
        rw [enter] at hnext
        split at hnext
        · split at hnext <;> cases hnext
          simp
        · cases hnext
          simp
        · cases hnext
          simp
      | ok next =>
        simp only [hnext, Except.bind] at h
        split at h
        · cases links with
          | zero =>
            cases h
            simp
          | succ links => exact ihlinks links (Nat.lt_succ_self links) h
        · exact ih h

end FileTree

namespace Workspace
variable {w : Workspace} {p : Path} {dir : Location} {names : List String} {f : FileFault}

theorem look_eq_error_iff {e : FileFault} :
    w.look p = .error e ↔ e = .denied ∧ w.follow p = .error .denied := by
  cases hfollow : w.follow p with
  | ok found => simp [look, hfollow]
  | error f => cases f <;> simp [look, hfollow, eq_comm]

theorem look_eq_some_iff {found : Location × Item} :
    w.look p = .ok (some found) ↔ w.follow p = .ok found := by
  cases hfollow : w.follow p with
  | ok found => simp [look, hfollow]
  | error f => cases f <;> simp [look, hfollow]

theorem look_eq_none_iff : w.look p = .ok none ↔ ∃ e, w.follow p = .error e ∧ e ≠ .denied := by
  cases hfollow : w.follow p with
  | ok found => simp [look, hfollow]
  | error f => cases f <;> simp [look, hfollow]

theorem isFile_eq_true_iff :
    w.isFile p = .ok true ↔ ∃ l canRead content, w.follow p = .ok (l, .file canRead content) := by
  simp only [← look_eq_some_iff, isFile]
  rcases w.look p with e | _ | ⟨l, canList | canRead⟩ <;> simp [Except.map]

theorem isFile_eq_error_iff : w.isFile p = .error f ↔ f = .denied ∧ w.follow p = .error .denied := by
  rw [← look_eq_error_iff, isFile]
  cases w.look p <;> simp [Except.map]

theorem directory?_eq_some_iff {dir : Location} : w.directory? p = .ok (some dir) ↔
    ∃ canList canSearch, w.follow p = .ok (dir, .directory canList canSearch) := by
  simp only [← look_eq_some_iff, directory?]
  rcases w.look p with e | _ | ⟨l, canList | canRead⟩ <;> simp [Except.map]

theorem follow_append {i : Item} (h : w.follow p = .ok (dir, i)) (hnames : ∀ name ∈ names, IsName name) :
    ∃ left, w.follow (p.append names) = w.files.follow left dir names := by
  by_cases hnull : p.hasNull
  · simp [follow, hnull] at h
  · have hnull' : ¬ (p.append names).hasNull := by
      rw [Path.hasNull, Path.append, List.any_append, Bool.or_eq_true, not_or]
      refine ⟨hnull, ?_⟩
      rw [List.any_eq_true]
      rintro ⟨name, hname, hmem⟩
      exact (hnames name hname).null_not_mem (List.contains_iff_mem.mp hmem)
    rw [follow, if_neg hnull] at h
    obtain ⟨left, hleft⟩ := FileTree.follow_append h
    refine ⟨left, ?_⟩
    rw [follow, if_neg hnull']
    exact hleft names

/-- A text is not had where the walk fails, where it ends at a directory, and where it is kept from
the run. -/
theorem fault_of_read (h : w.read p = .error f) : f = .denied ∨
    (f = .isDirectory ∧ ∃ place, w.directory? p = .ok (some place)) ∨ w.follow p = .error f := by
  rw [read] at h
  split at h
  · next l i hfollow =>
    cases i with
    | directory canList canSearch =>
      split at h <;> cases h
      · exact Or.inr (Or.inl ⟨rfl, l, directory?_eq_some_iff.mpr ⟨_, _, hfollow⟩⟩)
      · exact Or.inl rfl
    | file canRead content =>
      split at h <;> cases h
      exact Or.inl rfl
  · next e hfollow =>
    obtain rfl := Except.error.inj h
    exact Or.inr (Or.inr hfollow)

theorem read_of_isFile (h : w.isFile p = .ok true) (hread : w.read p = .error f) : f = .denied := by
  obtain ⟨l, canRead, content, hfollow⟩ := isFile_eq_true_iff.mp h
  rcases fault_of_read hread with hf | ⟨-, place, hdir⟩ | hnot
  · exact hf
  · obtain ⟨canList, canSearch, hdir⟩ := directory?_eq_some_iff.mp hdir
    simp [hfollow] at hdir
  · simp [hfollow] at hnot

theorem read_of_not_isFile (h : w.isFile p ≠ .ok true) : ∃ f, w.read p = .error f := by
  cases hread : w.read p with
  | error f => exact ⟨f, rfl⟩
  | ok bytes =>
    refine absurd ?_ h
    rw [read] at hread
    split at hread
    · next l i hfollow =>
      cases i with
      | directory canList canSearch => cases canList <;> simp [Item.isReadable] at hread
      | file canRead content => exact isFile_eq_true_iff.mpr ⟨l, canRead, content, hfollow⟩
    · cases hread

end Workspace
end GroupLint
