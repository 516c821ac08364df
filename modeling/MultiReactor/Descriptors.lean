/-
This file is the library of descriptor tables. A table says which object each
number is open on. Processes that share no table close an object independently:
it is released when the last table has none of it. Within one table an object
that is open under a single number is gone when that number is closed, and a
number that is not that one can be opened and closed without touching it.
-/

import Mathlib.Logic.Function.Basic

namespace Descriptors

/-- Which object a number is open on, if it is open. -/
abbrev Table (Object : Type) := Nat → Option Object

section Table

variable {Object : Type} {table : Table Object} {fd other : Nat} {object held : Object}

def Table.open (table : Table Object) (fd : Nat) (object : Object) : Table Object :=
  Function.update table fd (some object)

def Table.close (table : Table Object) (fd : Nat) : Table Object :=
  Function.update table fd none

/-- The table of a process that has exited. -/
def Table.empty : Table Object := fun _ => none

/-- No number is open on the object. -/
def Table.Lacks (table : Table Object) (object : Object) : Prop :=
  ∀ fd, table fd ≠ some object

/-- The object is open under this number and no other. -/
def Table.Sole (table : Table Object) (fd : Nat) (object : Object) : Prop :=
  ∀ other, table other = some object ↔ other = fd

@[simp] theorem open_self : table.open fd object fd = some object :=
  Function.update_self ..

@[simp] theorem close_self : table.close fd fd = none :=
  Function.update_self ..

theorem open_other (different : other ≠ fd) : table.open fd object other = table other :=
  Function.update_of_ne different ..

theorem close_other (different : other ≠ fd) : table.close fd other = table other :=
  Function.update_of_ne different ..

/-- Closing what has just been opened. -/
theorem close_open (free : table fd = none) : (table.open fd object).close fd = table := by
  rw [Table.close, Table.open, Function.update_idem, ← free, Function.update_eq_self]

/-- Opening one number and closing another, in either order. -/
theorem close_open_comm (different : other ≠ fd) :
    (table.open fd object).close other = (table.close other).open fd object :=
  Function.update_comm different.symm ..

theorem empty_lacks : (Table.empty : Table Object).Lacks object :=
  fun _ same => by cases same

theorem Table.Lacks.close (lacks : table.Lacks object) : (table.close fd).Lacks object := by
  intro other
  by_cases same : other = fd
  · rw [same, close_self]
    exact fun same => by cases same
  · rw [close_other same]
    exact lacks other

theorem Table.Lacks.open (lacks : table.Lacks object) (different : held ≠ object) :
    (table.open fd held).Lacks object := by
  intro other
  by_cases same : other = fd
  · rw [same, open_self]
    exact fun equal => different (Option.some.inj equal)
  · rw [open_other same]
    exact lacks other

/-- A new object is open under the number it has been opened under. -/
theorem Table.Lacks.sole (lacks : table.Lacks object) : (table.open fd object).Sole fd object := by
  intro other
  by_cases same : other = fd
  · rw [same, open_self]
    exact iff_of_true rfl rfl
  · rw [open_other same]
    exact iff_of_false (lacks other) same

theorem Table.Sole.self (sole : table.Sole fd object) : table fd = some object :=
  (sole fd).mpr rfl

/-- The object is gone when its number is closed. -/
theorem Table.Sole.close (sole : table.Sole fd object) : (table.close fd).Lacks object := by
  intro other
  by_cases same : other = fd
  · rw [same, close_self]
    exact fun same => by cases same
  · rw [close_other same]
    exact fun known => same ((sole other).mp known)

theorem Table.Sole.close_other (sole : table.Sole fd object) (different : other ≠ fd) :
    (table.close other).Sole fd object := by
  intro number
  by_cases same : number = other
  · rw [same, close_self]
    exact iff_of_false (fun same => by cases same) different
  · rw [Descriptors.close_other same]
    exact sole number

/-- Opening a free number on another object. -/
theorem Table.Sole.open_other (sole : table.Sole fd object) (free : table other = none)
    (different : held ≠ object) : (table.open other held).Sole fd object := by
  have apart : other ≠ fd := fun same => by
    rw [same, sole.self] at free
    cases free
  intro number
  by_cases same : number = other
  · rw [same, open_self]
    exact iff_of_false (fun equal => different (Option.some.inj equal)) apart
  · rw [Descriptors.open_other same]
    exact sole number

/-- Different objects are open under different numbers. -/
theorem Table.Sole.apart (sole : table.Sole fd object) (known : table other = some held)
    (different : held ≠ object) : other ≠ fd := by
  rintro rfl
  exact different (Option.some.inj (known.symm.trans sole.self))

/-! ### A family of objects -/

section Family

variable {Index : Type} {family : Index → Object} {number : Index → Option Nat} {index : Index}

/-- Every object of a family is open under the number it goes with and no other, and not at all
where it goes with none. -/
structure Table.Tracks (table : Table Object) (family : Index → Object)
    (number : Index → Option Nat) : Prop where
  held : ∀ index fd, number index = some fd → table.Sole fd (family index)
  gone : ∀ index, number index = none → table.Lacks (family index)

/-- An object is open in the table exactly under the number it goes with. -/
theorem Table.Tracks.known_iff (tracks : table.Tracks family number) :
    table fd = some (family index) ↔ number index = some fd := by
  constructor
  · intro known
    cases goes : number index with
    | none => exact absurd known (tracks.gone index goes fd)
    | some own => rw [((tracks.held index own goes) fd).mp known]
  · exact fun goes => (tracks.held index fd goes).self

/-- A number outside the family is closed. -/
theorem Table.Tracks.close_outside (tracks : table.Tracks family number)
    (known : table fd = some held) (outside : ∀ index, held ≠ family index) :
    (table.close fd).Tracks family number where
  held index _ goes :=
    (tracks.held index _ goes).close_other ((tracks.held index _ goes).apart known (outside index))
  gone index goes := (tracks.gone index goes).close

variable [DecidableEq Index]

/-- An object of the family is opened under a free number. -/
theorem Table.Tracks.open (tracks : table.Tracks family number)
    (injective : Function.Injective family) (new : number index = none) (free : table fd = none) :
    (table.open fd (family index)).Tracks family (Function.update number index (some fd)) where
  held other _ goes := by
    by_cases same : other = index
    · rw [same, Function.update_self] at goes
      rw [same, ← Option.some.inj goes]
      exact (tracks.gone index new).sole
    · rw [Function.update_of_ne same] at goes
      exact (tracks.held other _ goes).open_other free fun equal => same (injective equal).symm
  gone other goes := by
    by_cases same : other = index
    · rw [same, Function.update_self] at goes
      cases goes
    · rw [Function.update_of_ne same] at goes
      exact (tracks.gone other goes).open fun equal => same (injective equal).symm

/-- An object of the family is closed. -/
theorem Table.Tracks.close (tracks : table.Tracks family number)
    (injective : Function.Injective family) (goes : number index = some fd) :
    (table.close fd).Tracks family (Function.update number index none) where
  held other _ holds := by
    by_cases same : other = index
    · rw [same, Function.update_self] at holds
      cases holds
    · rw [Function.update_of_ne same] at holds
      have sole := tracks.held other _ holds
      exact sole.close_other (sole.apart (tracks.held index fd goes).self
        fun equal => same (injective equal).symm)
  gone other holds := by
    by_cases same : other = index
    · rw [same]
      exact (tracks.held index fd goes).close
    · rw [Function.update_of_ne same] at holds
      exact (tracks.gone other holds).close

end Family

end Table

end Descriptors
