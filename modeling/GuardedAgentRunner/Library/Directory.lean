/-
This file develops a directory of files as a partial function of their names, with
the operations of a writer that destroys nothing it did not make: creating a file
that must not be there, appending to a file, and renaming a file to a name that
must not be there. A writer that appends to and renames only files it created keeps
everything that was there before it, also while others replace what is in files.
-/

import Mathlib.Logic.Function.Basic

/-- The contents of the files of a directory, by name. -/
abbrev Directory (Name Byte : Type) := Name → Option (List Byte)

namespace Directory

variable {Name Byte : Type} {directory next start : Directory Name Byte}
  {name source target : Name} {bytes : List Byte}

/-! ### What is kept -/

/-- Every file of the one directory is in the other, with the same contents. -/
def Keeps (before after : Directory Name Byte) : Prop :=
  ∀ name bytes, before name = some bytes → after name = some bytes

/-- Every file is kept but the one of a name. -/
def KeepsBut (spared : Name) (before after : Directory Name Byte) : Prop :=
  ∀ name bytes, name ≠ spared → before name = some bytes → after name = some bytes

theorem Keeps.refl (directory : Directory Name Byte) : Keeps directory directory :=
  fun _ _ => id

theorem Keeps.trans (early : Keeps start directory) (late : Keeps directory next) :
    Keeps start next :=
  fun name bytes present => late name bytes (early name bytes present)

theorem Keeps.absent (keeps : Keeps start directory) (absent : directory name = none) :
    start name = none := by
  rcases present : start name with _ | bytes
  · rfl
  · exact absurd (absent.symm.trans (keeps name bytes present)) nofun

theorem Keeps.trans_but (early : Keeps start directory) (absent : start name = none)
    (late : KeepsBut name directory next) : Keeps start next := by
  intro other bytes present
  refine late other bytes ?_ (early other bytes present)
  rintro rfl
  exact absurd (absent.symm.trans present) nofun

/-! ### The operations -/

variable [DecidableEq Name]

/-- Create an empty file, if there is none of the name: `O_CREATE` with `O_EXCL`. -/
def createExclusive (directory : Directory Name Byte) (name : Name) :
    Option (Directory Name Byte) :=
  match directory name with
  | none => some (Function.update directory name (some []))
  | some _ => none

/-- Append to a file. -/
def append (directory : Directory Name Byte) (name : Name) (bytes : List Byte) :
    Directory Name Byte :=
  Function.update directory name ((directory name).map (· ++ bytes))

/-- Rename a file, if there is none of the new name: `RENAME_NOREPLACE`. -/
def renameNoReplace (directory : Directory Name Byte) (source target : Name) :
    Option (Directory Name Byte) :=
  match directory source, directory target with
  | some bytes, none =>
    some (Function.update (Function.update directory source none) target (some bytes))
  | _, _ => none

/-- Replace what is in a file, if there is one. -/
def replace (directory : Directory Name Byte) (name : Name) (bytes : List Byte) :
    Directory Name Byte :=
  Function.update directory name ((directory name).map fun _ => bytes)

theorem createExclusive_eq_some (created : directory.createExclusive name = some next) :
    directory name = none ∧ next = Function.update directory name (some []) := by
  unfold createExclusive at created
  split at created
  · rename_i absent
    exact ⟨absent, (Option.some.inj created).symm⟩
  · cases created

theorem renameNoReplace_eq_some (renamed : directory.renameNoReplace source target = some next) :
    ∃ bytes, directory source = some bytes ∧ directory target = none ∧
      next = Function.update (Function.update directory source none) target (some bytes) := by
  unfold renameNoReplace at renamed
  split at renamed
  · rename_i bytes present absent
    exact ⟨bytes, present, absent, (Option.some.inj renamed).symm⟩
  · cases renamed

theorem append_self (present : directory name = some bytes) (more : List Byte) :
    directory.append name more name = some (bytes ++ more) := by
  rw [append, Function.update_self, present]
  rfl

theorem replace_eq_none (absent : directory name = none) (other : Name) (bytes : List Byte) :
    directory.replace other bytes name = none := by
  by_cases same : name = other
  · rw [← same, replace, Function.update_self, absent]
    rfl
  · rw [replace, Function.update_of_ne same, absent]

theorem replace_eq_some (present : directory name = some bytes) (other : Name)
    (contents : List Byte) :
    directory.replace other contents name = some (if name = other then contents else bytes) := by
  split
  · rename_i same
    rw [← same, replace, Function.update_self, present]
    rfl
  · rename_i different
    rw [replace, Function.update_of_ne different, present]

theorem Keeps.replace (keeps : Keeps start directory) (other : Name) (contents : List Byte) :
    Keeps (start.replace other contents) (directory.replace other contents) := by
  intro name bytes present
  rcases earlier : start name with _ | old
  · exact absurd ((replace_eq_none earlier other contents).symm.trans present) nofun
  · rw [replace_eq_some earlier] at present
    rw [replace_eq_some (keeps name old earlier), present]

theorem keeps_createExclusive (created : directory.createExclusive name = some next) :
    Keeps directory next := by
  obtain ⟨absent, rfl⟩ := createExclusive_eq_some created
  intro other bytes present
  rw [Function.update_of_ne, present]
  rintro rfl
  exact absurd (absent.symm.trans present) nofun

theorem keepsBut_append (directory : Directory Name Byte) (name : Name) (bytes : List Byte) :
    KeepsBut name directory (directory.append name bytes) := by
  intro other contents different present
  rw [append, Function.update_of_ne different, present]

theorem keepsBut_renameNoReplace
    (renamed : directory.renameNoReplace source target = some next) :
    KeepsBut source directory next := by
  obtain ⟨bytes, -, absent, rfl⟩ := renameNoReplace_eq_some renamed
  intro other contents different present
  rw [Function.update_of_ne, Function.update_of_ne different, present]
  rintro rfl
  exact absurd (absent.symm.trans present) nofun

end Directory
