import Mathlib.Data.List.Basic

/-! # A directory of files

Names, the files they stand for and what these hold. Renaming moves a name, never the
bytes, and an open file stays the same file under whatever name.
-/

structure Directory (ν : Type) where
  names : ν → Option Nat
  contents : Nat → List UInt8
  /-- The next file to be created. -/
  next : Nat
  distinct : ∀ {name other : ν} {file : Nat}, names name = some file → names other = some file →
    name = other
  used : ∀ {name : ν} {file : Nat}, names name = some file → file < next

namespace Directory

variable {ν : Type} (d : Directory ν)

def read (name : ν) : List UInt8 :=
  match d.names name with
  | some file => d.contents file
  | none => []

def append (file : Nat) (bytes : List UInt8) : Directory ν :=
  { d with contents := fun other =>
      if other = file then d.contents file ++ bytes else d.contents other }

@[simp] theorem append_names (file : Nat) (bytes : List UInt8) :
    (d.append file bytes).names = d.names := rfl

theorem read_of_none {name : ν} (h : d.names name = none) : d.read name = [] := by
  rw [read, h]

theorem read_append {name : ν} {file : Nat} (h : d.names name = some file) (bytes : List UInt8) :
    (d.append file bytes).read name = d.read name ++ bytes := by
  rw [read, append_names, read, h]
  exact if_pos rfl

theorem read_append_other {name other : ν} {file : Nat} (h : d.names name = some file)
    (hNe : other ≠ name) (bytes : List UInt8) :
    (d.append file bytes).read other = d.read other := by
  rw [read, append_names, read]
  cases hOther : d.names other with
  | none => rfl
  | some file' =>
    refine if_neg ?_
    rintro rfl
    exact hNe (d.distinct hOther h)

theorem read_congr {d d' : Directory ν} {name name' : ν} (hContents : d'.contents = d.contents)
    (hNames : d'.names name' = d.names name) : d'.read name' = d.read name := by
  rw [read, read, hContents, hNames]

variable [DecidableEq ν]

/-- The target's file, if there is one, loses its name. -/
def rename (source target : ν) : Directory ν :=
  match hSource : d.names source with
  | none => d
  | some moved =>
    { d with
      names := fun name =>
        if name = target then some moved else if name = source then none else d.names name
      distinct := by
        have hOnly {name : ν} {file : Nat} (h : (if name = target then some moved
            else if name = source then none else d.names name) = some file) :
            name = target ∧ file = moved ∨ name ≠ target ∧ name ≠ source ∧
              d.names name = some file := by
          split at h
          · exact .inl ⟨‹_›, (Option.some.inj h).symm⟩
          split at h
          · cases h
          · exact .inr ⟨‹_›, ‹_›, h⟩
        intro name other file hName hOther
        rcases hOnly hName with ⟨hTarget, rfl⟩ | ⟨-, hNotSource, hKept⟩
        · rcases hOnly hOther with ⟨hTarget', -⟩ | ⟨-, hNotSource, hKept'⟩
          · rw [hTarget, hTarget']
          · exact absurd (d.distinct hKept' hSource) hNotSource
        · rcases hOnly hOther with ⟨-, rfl⟩ | ⟨-, -, hKept'⟩
          · exact absurd (d.distinct hKept hSource) hNotSource
          · exact d.distinct hKept hKept'
      used := by
        intro name file h
        split at h
        · exact Option.some.inj h ▸ d.used hSource
        split at h
        · cases h
        · exact d.used h }

theorem rename_names {source target : ν} {moved : Nat} (h : d.names source = some moved)
    (name : ν) : (d.rename source target).names name =
      if name = target then some moved else if name = source then none else d.names name := by
  rw [rename]
  split
  · rename_i hSource
    cases h.symm.trans hSource
  · rename_i file hSource
    obtain rfl := Option.some.inj (h.symm.trans hSource)
    rfl

theorem rename_contents (source target : ν) :
    (d.rename source target).contents = d.contents := by
  rw [rename]
  split <;> rfl

theorem rename_target {source target : ν} {moved : Nat} (h : d.names source = some moved) :
    (d.rename source target).names target = some moved := by
  rw [rename_names d h, if_pos rfl]

theorem rename_source {source target : ν} {moved : Nat} (h : d.names source = some moved)
    (hNe : source ≠ target) : (d.rename source target).names source = none := by
  rw [rename_names d h, if_neg hNe, if_pos rfl]

theorem rename_other {source target name : ν} (hSource : name ≠ source) (hTarget : name ≠ target) :
    (d.rename source target).names name = d.names name := by
  cases h : d.names source with
  | none =>
    rw [rename]
    split
    · rfl
    · rename_i hSome
      cases h.symm.trans hSome
  | some moved => rw [rename_names d h, if_neg hTarget, if_neg hSource]

/-- Opens a file for appending; one that does not exist is created. -/
def openAppend (name : ν) : Nat × Directory ν :=
  match hName : d.names name with
  | some file => (file, d)
  | none =>
    (d.next,
      { names := fun other => if other = name then some d.next else d.names other
        contents := fun file => if file = d.next then [] else d.contents file
        next := d.next + 1
        distinct := by
          intro first second file hFirst hSecond
          split at hFirst <;> split at hSecond
          · rename_i hFirstName hSecondName
            rw [hFirstName, hSecondName]
          · have hUsed := d.used hSecond
            cases hFirst
            omega
          · have hUsed := d.used hFirst
            cases hSecond
            omega
          · exact d.distinct hFirst hSecond
        used := by
          intro other file h
          split at h
          · cases h
            omega
          · exact Nat.lt_succ_of_lt (d.used h) })

theorem openAppend_names (name : ν) :
    (d.openAppend name).2.names name = some (d.openAppend name).1 := by
  rw [openAppend]
  split
  · assumption
  · exact if_pos rfl

theorem openAppend_other {name other : ν} (h : other ≠ name) :
    (d.openAppend name).2.names other = d.names other := by
  rw [openAppend]
  split
  · rfl
  · exact if_neg h

theorem openAppend_contents (name : ν) :
    (d.openAppend name).2.contents (d.openAppend name).1 = d.read name := by
  rw [openAppend, read]
  split
  · rename_i file hFile
    rw [hFile]
  · rename_i hNone
    rw [hNone]
    exact if_pos rfl

theorem read_openAppend (name other : ν) :
    (d.openAppend name).2.read other = d.read other := by
  rcases eq_or_ne other name with rfl | h
  · rw [read, openAppend_names]
    exact openAppend_contents d other
  · rw [read, openAppend_other d h, read]
    cases hOther : d.names other with
    | none => rfl
    | some file =>
      simp only
      rw [openAppend]
      split
      · rfl
      · exact if_neg (Nat.ne_of_lt (d.used hOther))

end Directory
