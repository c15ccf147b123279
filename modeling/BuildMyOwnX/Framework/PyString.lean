import Mathlib

/-! # Python Strings

    `str.strip` with the white space of Python's `str.isspace`, and
    `sep.join(filter(None, parts))`, the join of the parts that are not empty.

    Joining non-empty parts is a homomorphism from lists to strings with `glue`
    (`join_filter_append`), so joins of joins are joins. A string is trimmed when
    it begins and ends with something visible; `strip` gives a trimmed string,
    leaves trimmed strings alone, and empties exactly the blank ones.
-/

namespace PyString

/-- The code points Python counts as white space. -/
def is_space (c : Char) : Bool :=
  let n := c.toNat
  (0x09 ≤ n && n ≤ 0x0d) || (0x1c ≤ n && n ≤ 0x20) || n = 0x85 || n = 0xa0 || n = 0x1680 ||
    (0x2000 ≤ n && n ≤ 0x200a) || n = 0x2028 || n = 0x2029 || n = 0x202f || n = 0x205f ||
    n = 0x3000

/-- `s.strip()`. -/
def strip (s : String) : String :=
  String.ofList (((s.toList.dropWhile is_space).reverse.dropWhile is_space).reverse)

/-- `sep.join(filter(None, parts))`. -/
def join_filter (sep : String) (parts : List String) : String :=
  sep.intercalate (parts.filter (· ≠ ""))

/-! ### Joining -/

section join

variable {sep : String}

/-- A list of non-empty strings is joined to an empty one only if it is empty. -/
theorem intercalate_eq_empty {parts : List String} (h : ∀ part ∈ parts, part ≠ "") :
    sep.intercalate parts = "" ↔ parts = [] := by
  constructor
  · intro hempty
    cases parts with
    | nil => rfl
    | cons part parts =>
      have hpart := h part List.mem_cons_self
      cases parts with
      | nil =>
        rw [String.intercalate_singleton] at hempty
        exact absurd hempty hpart
      | cons part' parts =>
        rw [String.intercalate_cons_cons] at hempty
        have hlist := congrArg String.toList hempty
        simp only [String.toList_append, String.toList_empty, List.append_eq_nil_iff] at hlist
        exact absurd (String.toList_eq_nil_iff.mp hlist.1.1) hpart
  · rintro rfl
    exact String.intercalate_nil

/-- Two texts with the separator between them, if both are there. -/
def glue (sep a b : String) : String :=
  if a = "" then b else if b = "" then a else a ++ sep ++ b

theorem join_filter_nil : join_filter sep [] = "" := String.intercalate_nil

theorem join_filter_singleton (part : String) : join_filter sep [part] = part := by
  unfold join_filter
  by_cases h : part = ""
  · subst h
    exact String.intercalate_nil
  · rw [List.filter_cons_of_pos (by simpa using h), List.filter_nil, String.intercalate_singleton]

theorem join_filter_append (parts parts' : List String) :
    join_filter sep (parts ++ parts') =
      glue sep (join_filter sep parts) (join_filter sep parts') := by
  have hne : ∀ l : List String, ∀ part ∈ l.filter (· ≠ ""), part ≠ "" := by
    intro l part hpart
    simpa using (List.mem_filter.mp hpart).2
  unfold join_filter glue
  rw [List.filter_append]
  simp only [intercalate_eq_empty (hne _)]
  split
  case isTrue h => rw [h, List.nil_append]
  case isFalse h =>
    split
    case isTrue h' => rw [h', List.append_nil]
    case isFalse h' => exact String.intercalate_append_of_ne_nil h h'

theorem join_filter_cons (part : String) (parts : List String) :
    join_filter sep (part :: parts) = glue sep part (join_filter sep parts) := by
  rw [← List.singleton_append, join_filter_append, join_filter_singleton]

end join

/-! ### Blank and trimmed strings -/

/-- Empty or white space only. -/
def Blank (s : String) : Prop := ∀ c ∈ s.toList, is_space c

/-- No white space at either end. -/
structure Trimmed (s : String) : Prop where
  first : ∀ c ∈ s.toList.head?, is_space c = false
  last : ∀ c ∈ s.toList.getLast?, is_space c = false

theorem toList_strip (s : String) :
    (strip s).toList = (s.toList.dropWhile is_space).rdropWhile is_space := by
  rw [strip, String.toList_ofList]
  rfl

theorem strip_eq_empty {s : String} : strip s = "" ↔ Blank s := by
  rw [← String.toList_eq_nil_iff, toList_strip, List.rdropWhile_eq_nil_iff]
  constructor
  · intro h c hc
    -- a visible character is not dropped from the front either
    by_contra hvisible
    have hne : s.toList.dropWhile is_space ≠ [] := by
      intro hnil
      exact hvisible (List.dropWhile_eq_nil_iff.mp hnil c hc)
    have hhead := List.head_dropWhile_not is_space hne
    rw [h _ (List.head_mem hne)] at hhead
    cases hhead
  · intro h c hc
    exact h c (List.dropWhile_suffix _ |>.subset hc)

theorem strip_trimmed (s : String) : Trimmed (strip s) := by
  constructor
  · intro c hc
    rw [toList_strip] at hc
    -- the end that is dropped leaves the front alone
    obtain ⟨rest, hrest⟩ := List.rdropWhile_prefix is_space (s.toList.dropWhile is_space)
    have hhead := List.head?_dropWhile_not is_space s.toList
    rw [← hrest, List.head?_append, Option.mem_def.mp hc] at hhead
    exact hhead
  · intro c hc
    rw [toList_strip] at hc
    obtain ⟨hne, rfl⟩ := List.mem_getLast?_eq_getLast hc
    exact Bool.eq_false_iff.mpr (List.rdropWhile_last_not is_space _ hne)

theorem strip_eq_self {s : String} (h : Trimmed s) : strip s = s := by
  have hfront : s.toList.dropWhile is_space = s.toList := by
    apply List.dropWhile_eq_self_iff.mpr
    intro hl hspace
    have hfirst := h.first s.toList[0] (by simp [List.head?_eq_getElem?])
    rw [hspace] at hfirst
    cases hfirst
  have hback : s.toList.rdropWhile is_space = s.toList := by
    apply List.rdropWhile_eq_self_iff.mpr
    intro hl hspace
    have hlast := h.last (s.toList.getLast hl) (List.getLast_mem_getLast? hl)
    rw [hspace] at hlast
    cases hlast
  rw [← String.toList_inj, toList_strip, hfront, hback]

theorem blank_append {a b : String} : Blank (a ++ b) ↔ Blank a ∧ Blank b := by
  simp only [Blank, String.toList_append, List.mem_append]
  constructor
  · intro h
    exact ⟨fun c hc => h c (Or.inl hc), fun c hc => h c (Or.inr hc)⟩
  · rintro ⟨ha, hb⟩ c (hc | hc)
    · exact ha c hc
    · exact hb c hc

theorem blank_empty : Blank "" := by
  intro c hc
  cases hc

/-- A join is blank when its parts are, if the separator is. -/
theorem blank_join_filter {sep : String} (hsep : Blank sep) {parts : List String} :
    Blank (join_filter sep parts) ↔ ∀ part ∈ parts, Blank part := by
  induction parts with
  | nil =>
    rw [join_filter_nil]
    simp [blank_empty]
  | cons part parts ih =>
    rw [join_filter_cons, List.forall_mem_cons, ← ih]
    unfold glue
    split
    case isTrue h => simp [h, blank_empty]
    case isFalse h =>
      split
      case isTrue h' => simp [h', blank_empty]
      case isFalse h' => simp [blank_append, hsep]

/-- Visible text on both sides keeps the ends of a string trimmed. -/
theorem Trimmed.append {a b : String} (m : String) (ha : Trimmed a) (hb : Trimmed b)
    (hane : a ≠ "") (hbne : b ≠ "") : Trimmed (a ++ m ++ b) := by
  have hane' : a.toList ≠ [] := fun h => hane (String.toList_eq_nil_iff.mp h)
  have hbne' : b.toList ≠ [] := fun h => hbne (String.toList_eq_nil_iff.mp h)
  constructor
  · intro c hc
    rw [String.toList_append, String.toList_append, List.append_assoc,
      List.head?_append_of_ne_nil _ hane'] at hc
    exact ha.first c hc
  · intro c hc
    rw [String.toList_append, List.getLast?_append_of_ne_nil _ hbne'] at hc
    exact hb.last c hc

/-- A join of trimmed parts with some text is trimmed. -/
theorem trimmed_intercalate {sep : String} {parts : List String}
    (h : ∀ part ∈ parts, Trimmed part ∧ part ≠ "") : Trimmed (sep.intercalate parts) := by
  induction parts with
  | nil =>
    rw [String.intercalate_nil]
    constructor <;> intro c hc <;> cases hc
  | cons part parts ih =>
    have hpart := h part List.mem_cons_self
    have hrest : ∀ p ∈ parts, Trimmed p ∧ p ≠ "" := fun p hp => h p (List.mem_cons_of_mem _ hp)
    cases hparts : parts with
    | nil =>
      rw [String.intercalate_singleton]
      exact hpart.1
    | cons part' parts' =>
      have hne : parts ≠ [] := by
        rw [hparts]
        exact List.cons_ne_nil _ _
      have hjoin : sep.intercalate parts ≠ "" := fun hempty =>
        hne ((intercalate_eq_empty fun p hp => (hrest p hp).2).mp hempty)
      rw [← hparts, String.intercalate_cons_of_ne_nil hne]
      exact hpart.1.append sep (ih hrest) hpart.2 hjoin

end PyString
