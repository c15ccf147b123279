import BuildMyOwnX.Framework.StateExcept

/-! # Dictionaries that are Shared and Updated in Place

    A heap of dictionaries. A dictionary is an association list without
    duplicate keys, its order left out, and a program holds addresses, so a copy
    and its original are told apart and an update is seen through every name.

    The operations are those of Python's `dict`, each with its run on a heap.
    `Extends` says that what was there before is still as it was: new
    dictionaries extend a heap, and so do updates of dictionaries that are new.
-/

/-- A finite map. -/
abbrev Dict (κ ν : Type) : Type := AList fun _ : κ => ν

/-- Where both have a key, a left-biased union has the value of the left. -/
theorem Dict.lookup_union {κ ν : Type} [DecidableEq κ] (d d' : Dict κ ν) (key : κ) :
    (d ∪ d').lookup key = (d.lookup key).or (d'.lookup key) := by
  by_cases hkey : key ∈ d
  · obtain ⟨value, hvalue⟩ := Option.isSome_iff_exists.mp (AList.lookup_isSome.mpr hkey)
    rw [AList.lookup_union_left hkey, hvalue, Option.some_or]
  · rw [AList.lookup_union_right hkey, AList.lookup_eq_none.mpr hkey, Option.none_or]

/-- Dictionaries by address; those from `next` on are free. -/
structure DictHeap (κ ν : Type) where
  next : Nat
  cells : Nat → Dict κ ν

namespace DictHeap

variable {κ ν ε : Type} {h h' h₀ : DictHeap κ ν} {a b : Nat} {d : Dict κ ν}

def read (h : DictHeap κ ν) (a : Nat) : Dict κ ν := h.cells a

/-- A new dictionary, at `next`. -/
def alloc (h : DictHeap κ ν) (d : Dict κ ν) : DictHeap κ ν :=
  { next := h.next + 1, cells := Function.update h.cells h.next d }

/-- The dictionary at `a` replaced. -/
def write (h : DictHeap κ ν) (a : Nat) (d : Dict κ ν) : DictHeap κ ν :=
  { h with cells := Function.update h.cells a d }

@[simp] theorem next_alloc : (h.alloc d).next = h.next + 1 := rfl

@[simp] theorem next_write : (h.write a d).next = h.next := rfl

@[simp] theorem read_alloc_new : (h.alloc d).read h.next = d := Function.update_self ..

theorem read_alloc_old (ha : a < h.next) : (h.alloc d).read a = h.read a :=
  Function.update_of_ne (Nat.ne_of_lt ha) ..

@[simp] theorem read_write_same : (h.write a d).read a = d := Function.update_self ..

theorem read_write_ne (hne : b ≠ a) : (h.write a d).read b = h.read b :=
  Function.update_of_ne hne ..

/-- An update of a dictionary that was just made. -/
@[simp] theorem write_alloc_new (d' : Dict κ ν) : (h.alloc d).write h.next d' = h.alloc d' := by
  unfold alloc write
  rw [Function.update_idem]

/-! ### What stays -/

/-- Nothing is lost and no old dictionary is changed. -/
structure Extends (h₀ h : DictHeap κ ν) : Prop where
  next_le : h₀.next ≤ h.next
  read_eq : ∀ a < h₀.next, h.read a = h₀.read a

theorem Extends.refl (h : DictHeap κ ν) : Extends h h :=
  ⟨Nat.le_refl _, fun _ _ => rfl⟩

theorem Extends.alloc (hext : Extends h₀ h) (d : Dict κ ν) : Extends h₀ (h.alloc d) := by
  constructor
  · exact Nat.le_succ_of_le hext.next_le
  · intro a ha
    rw [read_alloc_old (Nat.lt_of_lt_of_le ha hext.next_le), hext.read_eq a ha]

/-- An update of a dictionary that is new. -/
theorem Extends.write (hext : Extends h₀ h) (hnew : h₀.next ≤ a) (d : Dict κ ν) :
    Extends h₀ (h.write a d) := by
  constructor
  · exact hext.next_le
  · intro b hb
    have hne : b ≠ a := Nat.ne_of_lt (Nat.lt_of_lt_of_le hb hnew)
    rw [read_write_ne hne, hext.read_eq b hb]

/-! ### Operations -/

open StateExcept (run)

/-- `{…}`, a new dictionary. -/
def new (d : Dict κ ν) : StateExcept ε (DictHeap κ ν) Nat := do
  let h ← get
  set (h.alloc d)
  pure h.next

/-- `dict(a)`. -/
def copy (a : Nat) : StateExcept ε (DictHeap κ ν) Nat := do
  let h ← get
  new (h.read a)

theorem run_copy (a : Nat) (h : DictHeap κ ν) :
    run (copy a : StateExcept ε _ _) h = (.ok h.next, h.alloc (h.read a)) := rfl

section keys

variable [DecidableEq κ]

/-- `{**a, **b}`: where both have a key, the value of `b`. -/
def merge (a b : Nat) : StateExcept ε (DictHeap κ ν) Nat := do
  let h ← get
  new (h.read b ∪ h.read a)

/-- `key in a`. -/
def contains (a : Nat) (key : κ) : StateExcept ε (DictHeap κ ν) Bool := do
  let h ← get
  pure (decide (key ∈ h.read a))

/-- `a.get(key, default)`. -/
def get_default (a : Nat) (key : κ) (default : ν) : StateExcept ε (DictHeap κ ν) ν := do
  let h ← get
  pure (((h.read a).lookup key).getD default)

/-- `a[key]`, with what is raised for a missing key. -/
def get_item (missing : ε) (a : Nat) (key : κ) : StateExcept ε (DictHeap κ ν) ν := do
  let h ← get
  match (h.read a).lookup key with
  | some value => pure value
  | none => throw missing

/-- `a[key] = value`. -/
def set_item (a : Nat) (key : κ) (value : ν) : StateExcept ε (DictHeap κ ν) Unit := do
  let h ← get
  set (h.write a ((h.read a).insert key value))

/-- `a.pop(key, default)`. -/
def pop (a : Nat) (key : κ) (default : ν) : StateExcept ε (DictHeap κ ν) ν := do
  let h ← get
  set (h.write a ((h.read a).erase key))
  pure (((h.read a).lookup key).getD default)

theorem run_merge (a b : Nat) (h : DictHeap κ ν) :
    run (merge a b : StateExcept ε _ _) h =
      (.ok h.next, h.alloc (h.read b ∪ h.read a)) := rfl

theorem run_contains (a : Nat) (key : κ) (h : DictHeap κ ν) :
    run (contains a key : StateExcept ε _ _) h = (.ok (decide (key ∈ h.read a)), h) := rfl

theorem run_get_default (a : Nat) (key : κ) (default : ν) (h : DictHeap κ ν) :
    run (get_default a key default : StateExcept ε _ _) h =
      (.ok (((h.read a).lookup key).getD default), h) := rfl

theorem run_get_item {missing : ε} {key : κ} {value : ν}
    (hvalue : (h.read a).lookup key = some value) :
    run (get_item missing a key) h = (.ok value, h) := by
  unfold get_item
  show run (match (h.read a).lookup key with
    | some value => pure value
    | none => throw missing) h = _
  rw [hvalue]
  rfl

theorem run_set_item (a : Nat) (key : κ) (value : ν) (h : DictHeap κ ν) :
    run (set_item a key value : StateExcept ε _ _) h =
      (.ok (), h.write a ((h.read a).insert key value)) := rfl

theorem run_pop (a : Nat) (key : κ) (default : ν) (h : DictHeap κ ν) :
    run (pop a key default : StateExcept ε _ _) h =
      (.ok (((h.read a).lookup key).getD default), h.write a ((h.read a).erase key)) := rfl

end keys

end DictHeap
