import Mathlib.Logic.Function.Basic

/-!
# A file system shared with other processes

Directories are identified by device and inode number, as every node is. An identity belongs to
one node for ever: a node that is made later gets an identity that no node has had, and no node
changes its kind. Apart from that other processes may do what they like to the entries and to
what a path leads to.
-/

namespace PhotospiderDaemon.Foundation

structure Identity where
  device : Nat
  inode : Nat
deriving DecidableEq, Repr

namespace FileSystem

inductive Kind where
  | directory
  | socket
  | other
deriving DecidableEq, Repr

end FileSystem

/-- `kind` remembers the nodes that are gone. `directoryAt` is the directory that a path leads
to, through links and the working directory. -/
structure FileSystem (Path Name : Type) where
  kind : Identity → Option FileSystem.Kind
  entry : Identity → Name → Option Identity
  directoryAt : Path → Option Identity
  entry_known : ∀ {directory name identity}, entry directory name = some identity →
    (kind identity).isSome
  directoryAt_kind : ∀ {path directory}, directoryAt path = some directory →
    kind directory = some .directory

namespace FileSystem

variable {Path Name : Type} {fs fs' : FileSystem Path Name}

/-- What other processes may have done between two looks at the file system. -/
def Evolves (fs fs' : FileSystem Path Name) : Prop :=
  ∀ ⦃identity kind⦄, fs.kind identity = some kind → fs'.kind identity = some kind

theorem update_kind {identity : Identity} (kind : Kind) (hFresh : fs.kind identity = none)
    {identity' : Identity} {kind' : Kind} (hKind : fs.kind identity' = some kind') :
    Function.update fs.kind identity (some kind) identity' = some kind' := by
  have hNe : identity' ≠ identity := by
    rintro rfl
    rw [hFresh] at hKind
    exact absurd hKind (by simp)
  rw [Function.update_of_ne hNe]
  exact hKind

variable [DecidableEq Name]

/-- A new node with an entry of its own. -/
def link (fs : FileSystem Path Name) (directory : Identity) (name : Name) (identity : Identity)
    (kind : Kind) (hFresh : fs.kind identity = none) : FileSystem Path Name where
  kind := Function.update fs.kind identity (some kind)
  entry := Function.update fs.entry directory
    (Function.update (fs.entry directory) name (some identity))
  directoryAt := fs.directoryAt
  entry_known := by
    intro directory' name' identity' hEntry
    by_cases hIdentity : identity' = identity
    · rw [hIdentity, Function.update_self]
      rfl
    · rw [Function.update_of_ne hIdentity]
      by_cases hDirectory : directory' = directory
      · subst hDirectory
        rw [Function.update_self] at hEntry
        by_cases hName : name' = name
        · rw [hName, Function.update_self] at hEntry
          exact absurd (Option.some.inj hEntry).symm hIdentity
        · rw [Function.update_of_ne hName] at hEntry
          exact fs.entry_known hEntry
      · rw [Function.update_of_ne hDirectory] at hEntry
        exact fs.entry_known hEntry
  directoryAt_kind := fun hDirectory => update_kind kind hFresh (fs.directoryAt_kind hDirectory)

/-- The entry goes; the node keeps its identity. -/
def unlink (fs : FileSystem Path Name) (directory : Identity) (name : Name) :
    FileSystem Path Name where
  kind := fs.kind
  entry := Function.update fs.entry directory (Function.update (fs.entry directory) name none)
  directoryAt := fs.directoryAt
  entry_known := by
    intro directory' name' identity' hEntry
    by_cases hDirectory : directory' = directory
    · subst hDirectory
      rw [Function.update_self] at hEntry
      by_cases hName : name' = name
      · rw [hName, Function.update_self] at hEntry
        exact absurd hEntry (by simp)
      · rw [Function.update_of_ne hName] at hEntry
        exact fs.entry_known hEntry
    · rw [Function.update_of_ne hDirectory] at hEntry
      exact fs.entry_known hEntry
  directoryAt_kind := fs.directoryAt_kind

section

variable {directory : Identity} {name : Name} {identity : Identity} {kind : Kind}
  (hFresh : fs.kind identity = none)

@[simp]
theorem link_kind_self :
    (fs.link directory name identity kind hFresh).kind identity = some kind :=
  Function.update_self ..

@[simp]
theorem link_entry_self :
    (fs.link directory name identity kind hFresh).entry directory name = some identity := by
  simp [link]

@[simp]
theorem unlink_kind : (fs.unlink directory name).kind = fs.kind := rfl

@[simp]
theorem unlink_entry_self : (fs.unlink directory name).entry directory name = none := by
  simp [unlink]

theorem evolves_link : fs.Evolves (fs.link directory name identity kind hFresh) := by
  intro identity' kind' hKind
  exact update_kind kind hFresh hKind

end

end FileSystem

end PhotospiderDaemon.Foundation
