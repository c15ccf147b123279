import BuildMyOwnX.Framework.Json

/-! # Dumped Documents

    Two results about `dumps`:

    - `loads` undoes it (`loads_dumps`). Each scanner is shown to read back what
      the printer of the same construct wrote, wherever it stands; for numbers
      that needs a continuation that cannot extend them (`EndsValue`). Fuel is
      never short, because a text is at least as long as its parts.
    - It writes printable ASCII only, hence no line break (`dump_printable`).
-/

namespace Json

/-! ## Section 1: Strings are read back -/

theorem hex_value_digitChar : ∀ d < 16, hex_value (Nat.digitChar d) = some d := by decide

theorem scan_hex4_hex4 {n : Nat} (h : n < 0x10000) (rest : List Char) :
    scan_hex4 (hex4 n ++ rest) = some (n, rest) := by
  have hvalue : ∀ k, hex_value (Nat.digitChar (k % 16)) = some (k % 16) :=
    fun k => hex_value_digitChar _ (Nat.mod_lt _ (by decide))
  have hsum : 4096 * (n / 4096 % 16) + 256 * (n / 256 % 16) + 16 * (n / 16 % 16) + n % 16 = n := by
    omega
  show (do
    let a ← hex_value (Nat.digitChar (n / 4096 % 16))
    let b ← hex_value (Nat.digitChar (n / 256 % 16))
    let c ← hex_value (Nat.digitChar (n / 16 % 16))
    let d ← hex_value (Nat.digitChar (n % 16))
    return (4096 * a + 256 * b + 16 * c + d, rest)) = _
  rw [hvalue, hvalue, hvalue, hvalue]
  show some (_, rest) = _
  rw [hsum]

/-- A character is no surrogate. -/
theorem char_toNat_valid (c : Char) : c.toNat < 0xd800 ∨ (0xdfff < c.toNat ∧ c.toNat < 0x110000) :=
  c.valid

theorem scan_unicode_short {c : Char} (h : c.toNat < 0x10000) (rest : List Char) :
    scan_unicode (hex4 c.toNat ++ rest) = some (c, rest) := by
  have hvalid := char_toNat_valid c
  have hnot : ¬ (0xd800 ≤ c.toNat ∧ c.toNat < 0xe000) := by omega
  simp only [scan_unicode, scan_hex4_hex4 h, Option.bind_eq_bind, Option.bind_some, if_neg hnot,
    Char.ofNat_toNat]
  rfl

theorem scan_unicode_pair {n m : Nat} (hn : 0xd800 ≤ n ∧ n < 0xdc00)
    (hm : 0xdc00 ≤ m ∧ m < 0xe000) (rest : List Char) :
    scan_unicode (hex4 n ++ '\\' :: 'u' :: (hex4 m ++ rest)) =
      some (Char.ofNat (0x10000 + 0x400 * (n - 0xd800) + (m - 0xdc00)), rest) := by
  have hhigh : 0xd800 ≤ n ∧ n < 0xe000 := by omega
  have hboth : n < 0xdc00 ∧ 0xdc00 ≤ m ∧ m < 0xe000 := by omega
  unfold scan_unicode
  rw [scan_hex4_hex4 (by omega)]
  simp only [Option.bind_eq_bind, Option.bind_some, if_pos hhigh]
  rw [scan_hex4_hex4 (by omega)]
  simp only [Option.bind_some, if_pos hboth]
  rfl

theorem unescape_short_escape {c e : Char} (h : short_escape c = some e) :
    unescape e = some c ∧ e ≠ 'u' := by
  unfold short_escape at h
  split_ifs at h <;> cases h <;> subst_vars <;> decide

/-- An escaped character is read back. -/
theorem scan_char_escape (c : Char) (rest : List Char) :
    scan_char (escape c ++ rest) = some (c, rest) := by
  unfold escape
  cases hshort : short_escape c with
  | some e =>
    obtain ⟨hun, hu⟩ := unescape_short_escape hshort
    show (if e = 'u' then _ else (unescape e).map (·, rest)) = _
    rw [if_neg hu, hun]
    rfl
  | none =>
    by_cases hprint : 0x20 ≤ c.toNat ∧ c.toNat ≤ 0x7e
    · have hback : c ≠ '\\' := by
        intro h
        subst h
        exact absurd hshort (by decide)
      have hctrl : ¬ c.toNat < 0x20 := by omega
      simp only [if_pos hprint]
      show (if c = '\\' then _ else if c.toNat < 0x20 then none else some (c, rest)) = _
      rw [if_neg hback, if_neg hctrl]
    · simp only [if_neg hprint]
      -- above `0xffff` the escape is a surrogate pair
      by_cases hshort : c.toNat < 0x10000
      · rw [if_pos hshort]
        exact scan_unicode_short hshort rest
      · have hvalid := char_toNat_valid c
        have hsum : 0x10000 + 0x400 * (0xd800 + (c.toNat - 0x10000) / 0x400 - 0xd800) +
            (0xdc00 + (c.toNat - 0x10000) % 0x400 - 0xdc00) = c.toNat := by omega
        have hpair := scan_unicode_pair (n := 0xd800 + (c.toNat - 0x10000) / 0x400)
          (m := 0xdc00 + (c.toNat - 0x10000) % 0x400) (by omega) (by omega) rest
        rw [hsum, Char.ofNat_toNat] at hpair
        rw [if_neg hshort]
        simp only [List.cons_append, List.append_assoc]
        exact hpair

/-- An escaped character does not begin with a quote. -/
theorem head_escape (c : Char) : ∃ e cs, escape c = e :: cs ∧ e ≠ '"' := by
  unfold escape
  cases hshort : short_escape c with
  | some e => exact ⟨_, _, rfl, by decide⟩
  | none =>
    by_cases hprint : 0x20 ≤ c.toNat ∧ c.toNat ≤ 0x7e
    · refine ⟨c, [], if_pos hprint, ?_⟩
      intro h
      subst h
      exact absurd hshort (by decide)
    · simp only [if_neg hprint]
      split_ifs <;> exact ⟨_, _, rfl, by decide⟩

theorem scan_chars_escape (s : List Char) (rest : List Char) :
    ∀ fuel, s.length < fuel →
      scan_chars fuel (s.flatMap escape ++ '"' :: rest) = some (s, rest) := by
  induction s with
  | nil =>
    intro fuel hfuel
    cases fuel with
    | zero => exact absurd hfuel (Nat.not_lt_zero _)
    | succ fuel => rfl
  | cons c s ih =>
    intro fuel hfuel
    cases fuel with
    | zero => exact absurd hfuel (Nat.not_lt_zero _)
    | succ fuel =>
      -- no escape begins with a quote, so the scanner goes on
      obtain ⟨e, cs, hescape, hquote⟩ := head_escape c
      have hhead : (escape c ++ (s.flatMap escape ++ '"' :: rest)).head? ≠ some '"' := by
        rw [hescape]
        simpa using hquote
      rw [List.flatMap_cons, List.append_assoc, scan_chars, if_neg hhead, scan_char_escape]
      simp only [Option.bind_eq_bind, Option.bind_some]
      rw [ih fuel (by simpa using hfuel)]
      rfl

theorem length_flatMap_escape (s : List Char) : s.length ≤ (s.flatMap escape).length := by
  induction s with
  | nil => exact Nat.le_refl _
  | cons c s ih =>
    obtain ⟨e, cs, hescape, -⟩ := head_escape c
    rw [List.flatMap_cons, hescape]
    simp only [List.length_cons, List.length_append]
    omega

/-- A dumped string is read back, after its opening quote. -/
theorem scan_string_dump (s : String) (rest : List Char) :
    scan_string (s.toList.flatMap escape ++ '"' :: rest) = some (s, rest) := by
  have hlen := length_flatMap_escape s.toList
  unfold scan_string
  rw [scan_chars_escape s.toList rest _ (by simp only [List.length_append, List.length_cons]; omega)]
  simp only [Option.bind_eq_bind, Option.bind_some, String.ofList_toList]
  rfl

/-! ## Section 2: Values are read back -/

/-- What may stand after a value: nothing, a comma or a closing bracket. -/
def EndsValue (rest : List Char) : Prop :=
  ∀ c ∈ rest.head?, c = ',' ∨ c = ']' ∨ c = '}'

theorem takeWhile_digits {digits rest : List Char} (hdigits : ∀ c ∈ digits, c.isDigit)
    (hrest : EndsValue rest) : (digits ++ rest).takeWhile Char.isDigit = digits := by
  induction digits with
  | nil =>
    cases rest with
    | nil => rfl
    | cons c rest =>
      have hc : c.isDigit = false := by
        rcases hrest c rfl with rfl | rfl | rfl <;> decide
      simp [hc]
  | cons d digits ih =>
    have hd := hdigits d (List.mem_cons_self ..)
    rw [List.cons_append, List.takeWhile_cons, if_pos hd,
      ih (fun c hc => hdigits c (List.mem_cons_of_mem _ hc))]

/-- Only the digits of zero begin with zero. -/
theorem head_toDigits (n : Nat) (h : (Nat.toDigits 10 n).head? = some '0') : n = 0 := by
  induction n using Nat.strong_induction_on with
  | _ n ih =>
    by_cases hlt : n < 10
    · rw [Nat.toDigits_of_lt_base hlt] at h
      simpa using h
    · rw [Nat.toDigits_of_base_le (by decide) (by omega),
        List.head?_append_of_ne_nil _ Nat.toDigits_ne_nil] at h
      have hzero := ih (n / 10) (by omega) h
      omega

theorem scan_nat_dump (n : Nat) {rest : List Char} (hrest : EndsValue rest) :
    scan_nat (Nat.toDigits 10 n ++ rest) = some (n, rest) := by
  have hdigits : (if (Nat.toDigits 10 n ++ rest).head? = some '0' then ['0']
      else (Nat.toDigits 10 n ++ rest).takeWhile Char.isDigit) = Nat.toDigits 10 n := by
    rw [List.head?_append_of_ne_nil _ Nat.toDigits_ne_nil]
    by_cases hzero : (Nat.toDigits 10 n).head? = some '0'
    · rw [if_pos hzero, head_toDigits n hzero, Nat.toDigits_zero]
    · rw [if_neg hzero]
      exact takeWhile_digits
        (fun c hc => Nat.isDigit_of_mem_toDigits (by decide) (by decide) hc) hrest
  have hhead : ∀ c, rest.head? = some c → c = ',' ∨ c = ']' ∨ c = '}' := hrest
  have hend : ¬ (Nat.toDigits 10 n = [] ∨ rest.head? = some '.' ∨ rest.head? = some 'e' ∨
      rest.head? = some 'E') := by
    rintro (h | h | h | h)
    · exact Nat.toDigits_ne_nil h
    all_goals exact absurd (hhead _ h) (by decide)
  simp only [scan_nat, hdigits, List.drop_left, if_neg hend, Nat.ofDigitChars_ten_toDigits]

theorem scan_int_dump (n : Int) {rest : List Char} (hrest : EndsValue rest) :
    scan_int (dump_int n ++ rest) = some (n, rest) := by
  cases n with
  | ofNat n =>
    have hminus : (Nat.toDigits 10 n ++ rest).head? ≠ some '-' := by
      rw [List.head?_append_of_ne_nil _ Nat.toDigits_ne_nil]
      intro h
      have hmem := List.mem_of_mem_head? h
      exact absurd (Nat.isDigit_of_mem_toDigits (by decide) (by decide) hmem) (by decide)
    rw [dump_int, scan_int, if_neg hminus, scan_nat_dump n hrest]
    rfl
  | negSucc n =>
    have hminus : (dump_int (.negSucc n) ++ rest).head? = some '-' := rfl
    rw [scan_int, if_pos hminus, dump_int, List.cons_append, List.tail_cons,
      scan_nat_dump (n + 1) hrest]
    rfl

/-- `element` reads `part` back as `v`, wherever it stands. -/
def Reads {β : Type} (element : Parser β) (part : List Char) (v : β) : Prop :=
  ∀ rest, EndsValue rest → element (part ++ rest) = some (v, rest)

/-- A part begins with neither white space nor the closing bracket. -/
def Starts (close : Char) (part : List Char) : Prop :=
  ∃ c cs, part = c :: cs ∧ is_space c = false ∧ c ≠ close

theorem skip_starts {close : Char} {part : List Char} (h : Starts close part)
    (rest : List Char) : skip (part ++ rest) = part ++ rest := by
  obtain ⟨c, cs, rfl, hspace, -⟩ := h
  rw [skip, List.cons_append, List.dropWhile_cons, if_neg (by simp [hspace])]

section elements

variable {β : Type} {close : Char} {element : Parser β} {parts : List (List Char)} {vs : List β}

/-- After a part comes the next comma or the closing bracket. -/
theorem ends_part (hclose : close = ']' ∨ close = '}') (parts : List (List Char))
    (rest : List Char) :
    EndsValue ((parts.flatMap fun part => ',' :: ' ' :: part) ++ close :: rest) := by
  intro c hc
  cases parts with
  | nil =>
    have hcc : close = c := by simpa using hc
    rw [← hcc]
    exact .inr hclose
  | cons part parts =>
    have hcc : ',' = c := by simpa using hc
    exact .inl hcc.symm

theorem skip_close (hclose : close = ']' ∨ close = '}') (rest : List Char) :
    skip (close :: rest) = close :: rest := by
  have hspace : is_space close = false := by
    rcases hclose with rfl | rfl <;> decide
  rw [skip, List.dropWhile_cons, if_neg (by simp [hspace])]

theorem scan_tail_dump (hclose : close = ']' ∨ close = '}')
    (hreads : List.Forall₂ (Reads element) parts vs) (hstarts : ∀ part ∈ parts, Starts close part)
    (rest : List Char) :
    ∀ fuel, parts.length < fuel →
      scan_tail close element fuel
        ((parts.flatMap fun part => ',' :: ' ' :: part) ++ close :: rest) = some (vs, rest) := by
  induction hreads with
  | nil =>
    intro fuel hfuel
    cases fuel with
    | zero => exact absurd hfuel (Nat.not_lt_zero _)
    | succ fuel =>
      rw [List.flatMap_nil, List.nil_append, scan_tail, skip_close hclose]
      exact if_pos rfl
  | @cons part v parts vs hread _ ih =>
    intro fuel hfuel
    cases fuel with
    | zero => exact absurd hfuel (Nat.not_lt_zero _)
    | succ fuel =>
      have hstart := hstarts part (List.mem_cons_self ..)
      have htail := ih (fun part hpart => hstarts part (List.mem_cons_of_mem _ hpart)) fuel
        (by simpa using hfuel)
      have hcomma : close ≠ ',' := by
        rcases hclose with rfl | rfl <;> decide
      -- the printer puts one blank after each comma
      have hskip : ∀ cs, skip (',' :: cs) = ',' :: cs := fun cs => rfl
      have hblank : ∀ cs, skip (' ' :: cs) = skip cs := fun cs => rfl
      rw [List.flatMap_cons]
      simp only [List.cons_append, List.append_assoc]
      rw [scan_tail, hskip]
      simp only [if_neg hcomma.symm, if_pos]
      rw [hblank, skip_starts hstart, hread _ (ends_part hclose parts rest)]
      simp only [Option.bind_eq_bind, Option.bind_some, htail]
      rfl

/-- Joined parts are read back, after the opening bracket. -/
theorem scan_elements_dump (hclose : close = ']' ∨ close = '}')
    (hreads : List.Forall₂ (Reads element) parts vs) (hstarts : ∀ part ∈ parts, Starts close part)
    {fuel : Nat} (hfuel : parts.length ≤ fuel) (rest : List Char) :
    scan_elements close element fuel (comma_join parts ++ close :: rest) = some (vs, rest) := by
  unfold scan_elements
  cases hreads with
  | nil =>
    rw [comma_join, List.nil_append, skip_close hclose]
    exact if_pos rfl
  | @cons part v parts vs hread hreads =>
    have hstart := hstarts part (List.mem_cons_self ..)
    have htail := scan_tail_dump hclose hreads
      (fun part hpart => hstarts part (List.mem_cons_of_mem _ hpart)) rest fuel
      (by simpa using hfuel)
    have hhead : ∀ cs, (part ++ cs).head? ≠ some close := by
      intro cs
      obtain ⟨c, _, rfl, -, hc⟩ := hstart
      simpa using hc
    rw [comma_join, List.append_assoc, skip_starts hstart]
    simp only [if_neg (hhead _), hread _ (ends_part hclose parts rest), Option.bind_eq_bind,
      Option.bind_some, htail]
    rfl

end elements

theorem starts_append {close : Char} {part : List Char} (h : Starts close part)
    (rest : List Char) : Starts close (part ++ rest) := by
  obtain ⟨c, cs, rfl, hc⟩ := h
  exact ⟨c, cs ++ rest, rfl, hc⟩

theorem dump_string_starts {close : Char} (hclose : close = ']' ∨ close = '}') (s : String) :
    Starts close (dump_string s) := by
  refine ⟨_, _, rfl, by decide, ?_⟩
  rcases hclose with rfl | rfl <;> decide

/-- A dumped integer begins with a digit or a minus sign. -/
theorem head_dump_int (n : Int) : ∃ c cs, dump_int n = c :: cs ∧ (c.isDigit ∨ c = '-') := by
  cases n with
  | ofNat n =>
    rw [dump_int]
    cases hdigits : Nat.toDigits 10 n with
    | nil => exact absurd hdigits Nat.toDigits_ne_nil
    | cons d ds =>
      refine ⟨d, ds, rfl, .inl (Nat.isDigit_of_mem_toDigits (b := 10) (n := n)
        (by decide) (by decide) ?_)⟩
      rw [hdigits]
      exact List.mem_cons_self ..
  | negSucc n => exact ⟨_, _, rfl, .inr rfl⟩

theorem dump_int_starts {close : Char} (hclose : close = ']' ∨ close = '}') (n : Int) :
    Starts close (dump_int n) := by
  obtain ⟨c, cs, hdump, hc⟩ := head_dump_int n
  refine ⟨c, cs, hdump, ?_, ?_⟩
  · by_contra hspace
    simp only [is_space, Bool.not_eq_false, Bool.or_eq_true, decide_eq_true_eq] at hspace
    rcases hspace with ((rfl | rfl) | rfl) | rfl <;> exact absurd hc (by decide)
  · rintro rfl
    rcases hclose with rfl | rfl <;> exact absurd hc (by decide)

theorem dump_starts {close : Char} (hclose : close = ']' ∨ close = '}') (v : Json Empty) :
    Starts close (dump v) := by
  cases v with
  | float x => exact x.elim
  | str s => rw [dump]; exact dump_string_starts hclose s
  | int n => rw [dump]; exact dump_int_starts hclose n
  | bool b =>
    cases b <;> rw [dump] <;> refine ⟨_, _, rfl, by decide, ?_⟩ <;>
      rcases hclose with rfl | rfl <;> decide
  | null | list | dict =>
    rw [dump]
    refine ⟨_, _, rfl, by decide, ?_⟩
    rcases hclose with rfl | rfl <;> decide

theorem dump_list_starts (vs : List (Json Empty)) :
    ∀ part ∈ dump_list vs, Starts ']' part := by
  induction vs with
  | nil =>
    intro part hpart
    rw [dump_list] at hpart
    cases hpart
  | cons v vs ih =>
    intro part hpart
    rw [dump_list] at hpart
    rcases List.mem_cons.mp hpart with rfl | hpart
    · exact dump_starts (.inl rfl) v
    · exact ih part hpart

theorem dump_items_starts (items : List (String × Json Empty)) :
    ∀ part ∈ dump_items items, Starts '}' part := by
  induction items with
  | nil =>
    intro part hpart
    rw [dump_items] at hpart
    cases hpart
  | cons item items ih =>
    intro part hpart
    rw [dump_items] at hpart
    rcases List.mem_cons.mp hpart with rfl | hpart
    · exact starts_append (dump_string_starts (.inr rfl) item.1) _
    · exact ih part hpart

/-- Joining does not lose length: neither the number of parts nor any part is
    longer than the joined text. -/
theorem length_comma_join (parts : List (List Char)) (hne : ∀ part ∈ parts, part ≠ []) :
    parts.length ≤ (comma_join parts).length ∧
      ∀ part ∈ parts, part.length ≤ (comma_join parts).length := by
  cases parts with
  | nil => exact ⟨Nat.le_refl _, fun part h => absurd h (by simp)⟩
  | cons part parts =>
    have hpart : 0 < part.length := List.length_pos_of_ne_nil (hne part (List.mem_cons_self ..))
    have hrest : parts.length ≤ (parts.flatMap fun part => ',' :: ' ' :: part).length ∧
        ∀ part ∈ parts, part.length ≤ (parts.flatMap fun part => ',' :: ' ' :: part).length := by
      clear hne hpart
      induction parts with
      | nil => exact ⟨Nat.le_refl _, fun part h => absurd h (by simp)⟩
      | cons p parts ih =>
        simp only [List.flatMap_cons, List.length_append, List.length_cons, List.mem_cons,
          forall_eq_or_imp]
        refine ⟨by omega, by omega, fun part h => ?_⟩
        have := ih.2 part h
        omega
    simp only [comma_join, List.length_append, List.length_cons, List.mem_cons, forall_eq_or_imp]
    refine ⟨by omega, by omega, fun p h => ?_⟩
    have := hrest.2 p h
    omega

theorem ne_nil_of_starts {close : Char} {part : List Char} (h : Starts close part) :
    part ≠ [] := by
  obtain ⟨c, cs, rfl, -⟩ := h
  exact List.cons_ne_nil _ _

/-- A string value is read by its first character. -/
theorem scan_value_str (fuel : Nat) (s : String) (rest : List Char) :
    scan_value (fuel + 1) (dump_string s ++ rest) = some (.str s, rest) := by
  have hdump : dump_string s ++ rest = '"' :: (s.toList.flatMap escape ++ '"' :: rest) := by
    simp [dump_string]
  rw [hdump, scan_value, if_pos rfl, scan_string_dump]
  rfl

theorem scan_value_list (fuel : Nat) (cs : List Char) :
    scan_value (fuel + 1) ('[' :: cs) =
      (scan_elements ']' (scan_value fuel) fuel cs).map fun (vs, rest) => (.list vs, rest) := by
  rw [scan_value, if_neg (by decide), if_pos rfl]

theorem scan_value_dict (fuel : Nat) (cs : List Char) :
    scan_value (fuel + 1) ('{' :: cs) =
      (scan_elements '}' (scan_item (scan_value fuel)) fuel cs).map
        fun (items, rest) => (.dict items, rest) := by
  rw [scan_value, if_neg (by decide), if_neg (by decide), if_pos rfl]

theorem scan_value_int (fuel : Nat) (n : Int) {rest : List Char} (hrest : EndsValue rest) :
    scan_value (fuel + 1) (dump_int n ++ rest) = some (.int n, rest) := by
  obtain ⟨c, cs, hdump, hc⟩ := head_dump_int n
  have hscan := scan_int_dump n hrest
  rw [hdump, List.cons_append] at hscan ⊢
  -- neither a digit nor a minus sign begins any other value
  have hother : ∀ x : Char, x.isDigit = false → x ≠ '-' → c ≠ x := by
    rintro x hx hminus rfl
    rcases hc with hdigit | rfl
    · rw [hdigit] at hx
      exact absurd hx (by decide)
    · exact hminus rfl
  rw [scan_value, if_neg (hother '"' (by decide) (by decide)),
    if_neg (hother '[' (by decide) (by decide)), if_neg (hother '{' (by decide) (by decide)),
    if_neg (hother 'n' (by decide) (by decide)), if_neg (hother 't' (by decide) (by decide)),
    if_neg (hother 'f' (by decide) (by decide)), hscan]
  rfl

/-- A dumped item is read back. -/
theorem reads_item {β : Type} (key : String) {value : Parser β} {part : List Char} {v : β}
    (hvalue : Reads value part v) (hstart : Starts '}' part) :
    Reads (scan_item value) (dump_string key ++ ':' :: ' ' :: part) (key, v) := by
  intro rest hrest
  have hdump : dump_string key ++ ':' :: ' ' :: part ++ rest =
      '"' :: (key.toList.flatMap escape ++ '"' :: ':' :: ' ' :: (part ++ rest)) := by
    simp [dump_string]
  have hcolon : ∀ cs, skip (':' :: cs) = ':' :: cs := fun cs => rfl
  have hblank : ∀ cs, skip (' ' :: cs) = skip cs := fun cs => rfl
  rw [hdump, scan_item, if_pos rfl, scan_string_dump]
  simp only [Option.bind_eq_bind, Option.bind_some, hcolon, List.head?_cons, if_pos,
    List.tail_cons, hblank, skip_starts hstart, hvalue rest hrest]
  rfl

mutual

/-- Every value is read back, given as much fuel as its text is long. -/
theorem scan_value_dump : ∀ (v : Json Empty) (fuel : Nat), (dump v).length ≤ fuel →
    Reads (scan_value fuel) (dump v) v
  | v, 0, hfuel => by
    have hne := ne_nil_of_starts (dump_starts (.inl rfl) v)
    exact absurd (List.length_pos_of_ne_nil hne) (by omega)
  | .null, fuel + 1, _ => fun rest _ => by rw [dump]; rfl
  | .bool true, fuel + 1, _ => fun rest _ => by rw [dump]; rfl
  | .bool false, fuel + 1, _ => fun rest _ => by rw [dump]; rfl
  | .int n, fuel + 1, _ => fun rest hrest => by rw [dump]; exact scan_value_int fuel n hrest
  | .float x, _, _ => x.elim
  | .str s, fuel + 1, _ => fun rest _ => by rw [dump]; exact scan_value_str fuel s rest
  | .list items, fuel + 1, hfuel => fun rest _ => by
    have hstarts := dump_list_starts items
    have hlen := length_comma_join (dump_list items) fun p hp => ne_nil_of_starts (hstarts p hp)
    rw [dump] at hfuel
    simp only [List.length_append, List.length_cons] at hfuel
    have hreads := reads_list items fuel fun part hpart => by
      have := hlen.2 part hpart
      omega
    rw [dump, List.cons_append, List.cons_append, scan_value_list, List.append_assoc]
    rw [List.singleton_append, scan_elements_dump (.inl rfl) hreads hstarts (by omega)]
    rfl
  | .dict items, fuel + 1, hfuel => fun rest _ => by
    have hstarts := dump_items_starts items
    have hlen := length_comma_join (dump_items items) fun p hp => ne_nil_of_starts (hstarts p hp)
    rw [dump] at hfuel
    simp only [List.length_append, List.length_cons] at hfuel
    have hreads := reads_items items fuel fun part hpart => by
      have := hlen.2 part hpart
      omega
    rw [dump, List.cons_append, List.cons_append, scan_value_dict, List.append_assoc]
    rw [List.singleton_append, scan_elements_dump (.inr rfl) hreads hstarts (by omega)]
    rfl

theorem reads_list : ∀ (vs : List (Json Empty)) (fuel : Nat),
    (∀ part ∈ dump_list vs, part.length ≤ fuel) →
    List.Forall₂ (Reads (scan_value fuel)) (dump_list vs) vs
  | [], _, _ => by rw [dump_list]; exact .nil
  | v :: vs, fuel, h => by
    rw [dump_list] at h ⊢
    exact .cons (scan_value_dump v fuel (h _ (List.mem_cons_self ..)))
      (reads_list vs fuel fun part hpart => h part (List.mem_cons_of_mem _ hpart))

theorem reads_items : ∀ (items : List (String × Json Empty)) (fuel : Nat),
    (∀ part ∈ dump_items items, part.length ≤ fuel) →
    List.Forall₂ (Reads (scan_item (scan_value fuel))) (dump_items items) items
  | [], _, _ => by rw [dump_items]; exact .nil
  | (key, v) :: items, fuel, h => by
    rw [dump_items] at h ⊢
    have hpart := h _ (List.mem_cons_self ..)
    simp only [List.length_append, List.length_cons] at hpart
    refine .cons ?_ (reads_items items fuel fun part hpart => h part (List.mem_cons_of_mem _ hpart))
    exact reads_item key (scan_value_dump v fuel (by omega)) (dump_starts (.inr rfl) v)

end

/-- **Round trip**: `loads` undoes `dumps`. -/
theorem loads_dumps (v : Json Empty) : loads (dumps v) = some v := by
  have hskip : skip (dump v) = dump v := by
    simpa using skip_starts (dump_starts (.inl rfl) v) []
  have hread := scan_value_dump v (dump v).length (Nat.le_refl _) [] (by simp [EndsValue])
  rw [List.append_nil] at hread
  simp only [loads, dumps, String.toList_ofList, hskip, hread, Option.bind_eq_bind,
    Option.bind_some]
  exact if_pos rfl

/-! ## Section 3: Dumped text is printable ASCII -/

def Printable (c : Char) : Prop := 0x20 ≤ c.toNat ∧ c.toNat ≤ 0x7e

instance (c : Char) : Decidable (Printable c) := inferInstanceAs (Decidable (_ ∧ _))

theorem digitChar_printable : ∀ d < 16, Printable (Nat.digitChar d) := by decide

theorem isDigit_printable {c : Char} (h : c.isDigit) : Printable c := by
  have hrange : 48 ≤ c.toNat ∧ c.toNat ≤ 57 := by
    simpa [Char.isDigit, UInt32.le_iff_toNat_le] using h
  unfold Printable
  omega

theorem hex4_printable (n : Nat) : ∀ c ∈ hex4 n, Printable c := by
  have hdigit : ∀ k, Printable (Nat.digitChar (k % 16)) :=
    fun k => digitChar_printable _ (Nat.mod_lt _ (by decide))
  simp [hex4, hdigit]

theorem escape_printable (c : Char) : ∀ e ∈ escape c, Printable e := by
  unfold escape
  cases hshort : short_escape c with
  | some e =>
    have he : e ∈ ['"', '\\', 'n', 'r', 't', 'f', 'b'] := by
      unfold short_escape at hshort
      split_ifs at hshort <;> cases hshort <;> decide
    have hall : ∀ x ∈ ['"', '\\', 'n', 'r', 't', 'f', 'b'], Printable x := by
      simp [Printable]
    intro x hx
    rcases List.mem_cons.mp hx with rfl | hx
    · decide
    · rw [List.mem_singleton.mp hx]
      exact hall e he
  | none =>
    have hback : Printable '\\' ∧ Printable 'u' := by decide
    split_ifs with hprint hshort
    · intro x hx
      rw [List.mem_singleton.mp hx]
      exact hprint
    · intro x hx
      rcases List.mem_cons.mp hx with rfl | hx
      · exact hback.1
      rcases List.mem_cons.mp hx with rfl | hx
      · exact hback.2
      · exact hex4_printable _ x hx
    · intro x hx
      simp only [List.cons_append, List.mem_cons, List.mem_append] at hx
      rcases hx with rfl | rfl | hx | rfl | rfl | hx
      · exact hback.1
      · exact hback.2
      · exact hex4_printable _ x hx
      · exact hback.1
      · exact hback.2
      · exact hex4_printable _ x hx

theorem dump_string_printable (s : String) : ∀ c ∈ dump_string s, Printable c := by
  have hquote : Printable '"' := by decide
  intro c hc
  simp only [dump_string, List.cons_append, List.mem_cons, List.mem_append, List.mem_flatMap,
    List.not_mem_nil, or_false] at hc
  rcases hc with rfl | ⟨x, -, hx⟩ | rfl
  · exact hquote
  · exact escape_printable x c hx
  · exact hquote

theorem dump_int_printable (n : Int) : ∀ c ∈ dump_int n, Printable c := by
  have hdigits : ∀ m, ∀ c ∈ Nat.toDigits 10 m, Printable c := fun m c hc =>
    isDigit_printable (Nat.isDigit_of_mem_toDigits (by decide) (by decide) hc)
  intro c hc
  cases n with
  | ofNat n => exact hdigits n c hc
  | negSucc n =>
    rcases List.mem_cons.mp hc with rfl | hc
    · decide
    · exact hdigits (n + 1) c hc

theorem comma_join_printable {parts : List (List Char)}
    (h : ∀ part ∈ parts, ∀ c ∈ part, Printable c) : ∀ c ∈ comma_join parts, Printable c := by
  cases parts with
  | nil => exact fun c hc => absurd hc (by simp [comma_join])
  | cons part parts =>
    intro c hc
    simp only [comma_join, List.mem_append, List.mem_flatMap, List.mem_cons] at hc
    rcases hc with hc | ⟨p, hp, rfl | rfl | hc⟩
    · exact h part (List.mem_cons_self ..) c hc
    · decide
    · decide
    · exact h p (List.mem_cons_of_mem _ hp) c hc

/-- Bracketed printable text is printable. -/
theorem bracket_printable {cs : List Char} (h : ∀ c ∈ cs, Printable c) {l r : Char}
    (hl : Printable l) (hr : Printable r) : ∀ c ∈ l :: cs ++ [r], Printable c := by
  intro c hc
  simp only [List.cons_append, List.mem_cons, List.mem_append, List.not_mem_nil, or_false] at hc
  rcases hc with rfl | hc | rfl
  · exact hl
  · exact h c hc
  · exact hr

mutual

theorem dump_printable : ∀ (v : Json Empty), ∀ c ∈ dump v, Printable c
  | .null => by simp [dump, Printable]
  | .bool true => by simp [dump, Printable]
  | .bool false => by simp [dump, Printable]
  | .int n => by rw [dump]; exact dump_int_printable n
  | .float x => x.elim
  | .str s => by rw [dump]; exact dump_string_printable s
  | .list items => by
    rw [dump]
    exact bracket_printable (comma_join_printable (dump_list_printable items))
      (by decide) (by decide)
  | .dict items => by
    rw [dump]
    exact bracket_printable (comma_join_printable (dump_items_printable items))
      (by decide) (by decide)

theorem dump_list_printable : ∀ (vs : List (Json Empty)),
    ∀ part ∈ dump_list vs, ∀ c ∈ part, Printable c
  | [] => by
    rw [dump_list]
    intro part hpart
    cases hpart
  | v :: vs => by
    rw [dump_list]
    intro part hpart
    rcases List.mem_cons.mp hpart with rfl | hpart
    · exact dump_printable v
    · exact dump_list_printable vs part hpart

theorem dump_items_printable : ∀ (items : List (String × Json Empty)),
    ∀ part ∈ dump_items items, ∀ c ∈ part, Printable c
  | [] => by
    rw [dump_items]
    intro part hpart
    cases hpart
  | (key, v) :: items => by
    rw [dump_items]
    intro part hpart c hc
    rcases List.mem_cons.mp hpart with rfl | hpart
    · simp only [List.mem_append, List.mem_cons] at hc
      rcases hc with hc | rfl | rfl | hc
      · exact dump_string_printable key c hc
      · decide
      · decide
      · exact dump_printable v c hc
    · exact dump_items_printable items part hpart c hc

end

/-- `dumps` writes no line break. -/
theorem newline_not_mem_dumps (v : Json Empty) : '\n' ∉ (dumps v).toList := by
  intro h
  rw [dumps, String.toList_ofList] at h
  exact absurd (dump_printable v _ h) (by decide)

/-- A dict is dumped with an opening brace. -/
theorem head_dumps_dict (items : List (String × Json Empty)) :
    (dumps (.dict items)).toList.head? = some '{' := by
  rw [dumps, String.toList_ofList, dump]
  rfl

end Json
