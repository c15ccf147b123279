import Mathlib

/-! # Least Recently Used

    A cache of at most `maxsize` entries, the most recently used first: a hit
    moves its entry to the front, and a new entry pushes out the last one when
    the cache is full. That the keys are different and fit is part of the type.

    What it is for is said by the uses so far, the latest first: the keys are the
    `maxsize` last used ones, in the order of their last uses (`Follows`). So
    nothing is pushed out while at most `maxsize` keys are in use.
-/

variable {κ ν : Type} [DecidableEq κ]

/-! ### Lists -/

/-- Each key once, where it comes first. -/
def recent : List κ → List κ
  | [] => []
  | k :: uses => k :: (recent uses).erase k

theorem recent_nodup (uses : List κ) : (recent uses).Nodup := by
  induction uses with
  | nil => exact List.nodup_nil
  | cons k uses ih => exact List.nodup_cons.mpr ⟨ih.not_mem_erase, ih.erase k⟩

theorem mem_recent {k : κ} {uses : List κ} : k ∈ recent uses ↔ k ∈ uses := by
  induction uses with
  | nil => exact Iff.rfl
  | cons l uses ih =>
    by_cases hkl : k = l
    · subst hkl
      exact iff_of_true List.mem_cons_self List.mem_cons_self
    · rw [recent, List.mem_cons, List.mem_cons, List.mem_erase_of_ne hkl, ih]

/-- Taking one out of the first `n` leaves the first `n - 1` of the rest. -/
theorem List.erase_take_of_mem {k : κ} {l : List κ} {n : Nat} (h : k ∈ l.take n) :
    (l.take n).erase k = (l.erase k).take (n - 1) := by
  induction l generalizing n with
  | nil => simp at h
  | cons a l ih =>
    obtain ⟨n, rfl⟩ : ∃ m, n = m + 1 := by
      cases n with
      | zero => simp at h
      | succ n => exact ⟨n, rfl⟩
    rw [List.take_succ_cons, Nat.add_sub_cancel]
    by_cases hak : a = k
    · subst hak
      rw [List.erase_cons_head, List.erase_cons_head]
    · -- `a` stays in front of what is taken, so one less is taken from the tail
      rw [List.take_succ_cons] at h
      have htail : k ∈ l.take n := (List.mem_cons.mp h).resolve_left (Ne.symm hak)
      obtain ⟨n, rfl⟩ : ∃ m, n = m + 1 := by
        cases n with
        | zero => simp at htail
        | succ n => exact ⟨n, rfl⟩
      rw [List.erase_cons_tail (by simpa using hak), List.erase_cons_tail (by simpa using hak),
        ih htail, List.take_succ_cons, Nat.add_sub_cancel]

/-- What is not among the first `n` may be taken out behind them. -/
theorem List.take_erase_of_notMem {k : κ} {l : List κ} {n : Nat} (h : k ∉ l.take n) :
    (l.erase k).take n = l.take n := by
  induction l generalizing n with
  | nil => rfl
  | cons a l ih =>
    cases n with
    | zero => rfl
    | succ n =>
      rw [List.take_succ_cons, List.mem_cons, not_or] at h
      rw [List.erase_cons_tail (by simpa using Ne.symm h.1), List.take_succ_cons, ih h.2,
        List.take_succ_cons]

/-! ### The cache -/

structure LruCache (κ ν : Type) (maxsize : Nat) where
  entries : List (κ × ν)
  nodup : (entries.map Prod.fst).Nodup
  length_le : entries.length ≤ maxsize

namespace LruCache

variable {maxsize : Nat}

def keys (c : LruCache κ ν maxsize) : List κ := c.entries.map Prod.fst

def find (c : LruCache κ ν maxsize) (k : κ) : Option ν := c.entries.lookup k

def empty : LruCache κ ν maxsize := ⟨[], List.nodup_nil, Nat.zero_le _⟩

/-- The entry of `k` first. -/
def moved (k : κ) (entries : List (κ × ν)) : List (κ × ν) :=
  entries.filter (fun entry => entry.1 = k) ++ entries.filter (fun entry => ¬ entry.1 = k)

theorem moved_perm (k : κ) (entries : List (κ × ν)) : (moved k entries).Perm entries := by
  have hperm := List.filter_append_perm (fun entry : κ × ν => decide (entry.1 = k)) entries
  simpa only [moved, decide_not] using hperm

/-- A hit. -/
def touch (c : LruCache κ ν maxsize) (k : κ) : LruCache κ ν maxsize where
  entries := moved k c.entries
  nodup := ((moved_perm k c.entries).map Prod.fst).nodup_iff.mpr c.nodup
  length_le := (moved_perm k c.entries).length_eq.trans_le c.length_le

omit [DecidableEq κ] in
theorem pushed_nodup {k : κ} {v : ν} {c : LruCache κ ν maxsize} (h : k ∉ c.keys) :
    ((((k, v) :: c.entries).take maxsize).map Prod.fst).Nodup := by
  rw [List.map_take]
  exact (List.nodup_cons.mpr ⟨h, c.nodup⟩).sublist (List.take_sublist _ _)

/-- A new entry; one that is there already stays as it is. -/
def insert (c : LruCache κ ν maxsize) (k : κ) (v : ν) : LruCache κ ν maxsize :=
  if h : k ∈ c.keys then
    c
  else
    ⟨((k, v) :: c.entries).take maxsize, pushed_nodup h, List.length_take_le _ _⟩

theorem mem_of_find {c : LruCache κ ν maxsize} {k : κ} {v : ν} (h : c.find k = some v) :
    (k, v) ∈ c.entries := by
  obtain ⟨before, after, heq, -⟩ := List.lookup_eq_some_iff.mp h
  rw [heq]
  exact List.mem_append_right _ List.mem_cons_self

theorem find_eq_none {c : LruCache κ ν maxsize} {k : κ} : c.find k = none ↔ k ∉ c.keys := by
  unfold find keys
  rw [List.lookup_eq_none_iff, List.mem_map]
  constructor
  · rintro h ⟨entry, hmem, rfl⟩
    exact absurd (h entry hmem) (by simp)
  · intro h entry hmem
    rw [bne_iff_ne]
    rintro rfl
    exact h ⟨entry, hmem, rfl⟩

theorem mem_touch {c : LruCache κ ν maxsize} {k : κ} {entry : κ × ν} :
    entry ∈ (c.touch k).entries ↔ entry ∈ c.entries :=
  (moved_perm k c.entries).mem_iff

theorem mem_insert {c : LruCache κ ν maxsize} {k : κ} {v : ν} {entry : κ × ν}
    (h : entry ∈ (c.insert k v).entries) : entry = (k, v) ∨ entry ∈ c.entries := by
  unfold insert at h
  split at h
  · exact Or.inr h
  · exact List.mem_cons.mp (List.mem_of_mem_take h)

theorem keys_touch {c : LruCache κ ν maxsize} {k : κ} (h : k ∈ c.keys) :
    (c.touch k).keys = k :: c.keys.erase k := by
  have hnodup : c.keys.Nodup := c.nodup
  have hfirst : c.keys.filter (fun l => l = k) = [k] := by
    rw [List.filter_eq, List.count_eq_one_of_mem hnodup h, List.replicate_one]
  have hrest : c.keys.filter (fun l => ¬ l = k) = c.keys.erase k := by
    rw [hnodup.erase_eq_filter]
    exact List.filter_congr fun l _ => by by_cases hl : l = k <;> simp [hl]
  rw [← hrest, ← List.singleton_append, ← hfirst]
  unfold keys touch moved
  rw [List.filter_map, List.filter_map, ← List.map_append]
  rfl

theorem keys_insert {c : LruCache κ ν maxsize} {k : κ} {v : ν} (h : k ∉ c.keys) :
    (c.insert k v).keys = (k :: c.keys).take maxsize := by
  unfold insert
  rw [dif_neg h]
  exact List.map_take

/-! ### The last used keys -/

/-- The keys are the last used ones. -/
def Follows (c : LruCache κ ν maxsize) (uses : List κ) : Prop :=
  c.keys = (recent uses).take maxsize

theorem Follows.empty : (empty : LruCache κ ν maxsize).Follows [] := List.take_nil.symm

/-- A hit is a use. -/
theorem Follows.touch {c : LruCache κ ν maxsize} {uses : List κ} (h : c.Follows uses) {k : κ}
    (hk : k ∈ c.keys) : (c.touch k).Follows (k :: uses) := by
  unfold Follows at h ⊢
  have hpos : maxsize = maxsize - 1 + 1 := by
    have hlen := List.length_pos_of_mem hk
    have hle := c.length_le
    rw [keys, List.length_map] at hlen
    omega
  rw [keys_touch hk]
  rw [h] at hk ⊢
  rw [List.erase_take_of_mem hk, recent]
  conv_rhs => rw [hpos, List.take_succ_cons]

/-- So is a new entry. -/
theorem Follows.insert {c : LruCache κ ν maxsize} {uses : List κ} (h : c.Follows uses) {k : κ}
    (hk : k ∉ c.keys) (v : ν) : (c.insert k v).Follows (k :: uses) := by
  unfold Follows at h ⊢
  rw [keys_insert hk]
  rw [h] at hk ⊢
  rw [recent]
  cases maxsize with
  | zero => rfl
  | succ n =>
    rw [List.take_succ_cons, List.take_succ_cons, List.take_take, Nat.min_eq_left (Nat.le_succ n)]
    congr 1
    refine (List.take_erase_of_notMem ?_).symm
    exact fun hmem => hk (List.take_subset_take_left _ (Nat.le_succ n) hmem)

/-- While at most `maxsize` keys are in use, none of them is pushed out. -/
theorem Follows.mem_keys {c : LruCache κ ν maxsize} {uses : List κ} (h : c.Follows uses)
    {used : Finset κ} (hused : ∀ k ∈ uses, k ∈ used) (hcard : used.card ≤ maxsize) {k : κ}
    (hk : k ∈ uses) : k ∈ c.keys := by
  have hlen : (recent uses).length ≤ maxsize := by
    rw [← List.toFinset_card_of_nodup (recent_nodup uses)]
    refine (Finset.card_le_card ?_).trans hcard
    intro l hl
    exact hused l (mem_recent.mp (List.mem_toFinset.mp hl))
  rw [h, List.take_of_length_le hlen]
  exact mem_recent.mpr hk

/-- A key of the cache has been used. -/
theorem Follows.mem_uses {c : LruCache κ ν maxsize} {uses : List κ} (h : c.Follows uses) {k : κ}
    (hk : k ∈ c.keys) : k ∈ uses := by
  rw [h] at hk
  exact mem_recent.mp (List.mem_of_mem_take hk)

end LruCache
