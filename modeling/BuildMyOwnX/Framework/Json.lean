import Mathlib

/-! # JSON Documents

    JSON values, `dumps` in the format of Python's `json` module (separators
    `", "` and `": "`, everything outside printable ASCII escaped) and `loads`.

    Numbers other than integers are a type parameter `φ`. Printing and parsing
    are for `Json Empty`, the documents without such numbers: `loads` has no
    result on a document with a fraction or an exponent, nor on one with an
    escaped lone surrogate, which is no character here.
-/

inductive Json (φ : Type) where
  | null
  | bool (b : Bool)
  | int (n : Int)
  | float (x : φ)
  | str (s : String)
  | list (items : List (Json φ))
  | dict (items : List (String × Json φ))

namespace Json

/-! ## Section 1: Printing -/

/-- Four lower-case hexadecimal digits. -/
def hex4 (n : Nat) : List Char :=
  [Nat.digitChar (n / 4096 % 16), Nat.digitChar (n / 256 % 16), Nat.digitChar (n / 16 % 16),
    Nat.digitChar (n % 16)]

/-- The escape letter of a character that has one. -/
def short_escape (c : Char) : Option Char :=
  if c = '"' then some '"'
  else if c = '\\' then some '\\'
  else if c = '\n' then some 'n'
  else if c = '\r' then some 'r'
  else if c = '\t' then some 't'
  else if c = '\x0c' then some 'f'
  else if c = '\x08' then some 'b'
  else none

def escape (c : Char) : List Char :=
  match short_escape c with
  | some e => ['\\', e]
  | none =>
    if 0x20 ≤ c.toNat ∧ c.toNat ≤ 0x7e then [c]
    else if c.toNat < 0x10000 then '\\' :: 'u' :: hex4 c.toNat
    else
      -- a surrogate pair
      let n := c.toNat - 0x10000
      '\\' :: 'u' :: hex4 (0xd800 + n / 0x400) ++ '\\' :: 'u' :: hex4 (0xdc00 + n % 0x400)

def dump_string (s : String) : List Char := '"' :: s.toList.flatMap escape ++ ['"']

def dump_int : Int → List Char
  | .ofNat n => Nat.toDigits 10 n
  | .negSucc n => '-' :: Nat.toDigits 10 (n + 1)

/-- `", ".join(parts)`. -/
def comma_join : List (List Char) → List Char
  | [] => []
  | part :: parts => part ++ parts.flatMap fun part => ',' :: ' ' :: part

mutual

def dump : Json Empty → List Char
  | .null => ['n', 'u', 'l', 'l']
  | .bool true => ['t', 'r', 'u', 'e']
  | .bool false => ['f', 'a', 'l', 's', 'e']
  | .int n => dump_int n
  | .float x => x.elim
  | .str s => dump_string s
  | .list items => '[' :: comma_join (dump_list items) ++ [']']
  | .dict items => '{' :: comma_join (dump_items items) ++ ['}']

def dump_list : List (Json Empty) → List (List Char)
  | [] => []
  | v :: vs => dump v :: dump_list vs

def dump_items : List (String × Json Empty) → List (List Char)
  | [] => []
  | (key, v) :: items => (dump_string key ++ ':' :: ' ' :: dump v) :: dump_items items

end

/-- `json.dumps(v)`. -/
def dumps (v : Json Empty) : String := String.ofList (dump v)

/-! ## Section 2: Parsing -/

abbrev Parser (β : Type) : Type := List Char → Option (β × List Char)

def is_space (c : Char) : Bool := c = ' ' || c = '\t' || c = '\n' || c = '\r'

def skip (cs : List Char) : List Char := cs.dropWhile is_space

def hex_value (c : Char) : Option Nat :=
  if c.isDigit then some (c.toNat - 48)
  else if 'a' ≤ c ∧ c ≤ 'f' then some (c.toNat - 87)
  else if 'A' ≤ c ∧ c ≤ 'F' then some (c.toNat - 55)
  else none

def scan_hex4 : Parser Nat
  | a :: b :: c :: d :: rest => do
    let a ← hex_value a
    let b ← hex_value b
    let c ← hex_value c
    let d ← hex_value d
    return (4096 * a + 256 * b + 16 * c + d, rest)
  | _ => none

/-- What follows `\u`: a code unit, or two that are a surrogate pair. -/
def scan_unicode : Parser Char := fun cs => do
  let (n, rest) ← scan_hex4 cs
  if 0xd800 ≤ n ∧ n < 0xe000 then
    match rest with
    | '\\' :: 'u' :: rest => do
      let (m, rest) ← scan_hex4 rest
      if n < 0xdc00 ∧ 0xdc00 ≤ m ∧ m < 0xe000 then
        return (Char.ofNat (0x10000 + 0x400 * (n - 0xd800) + (m - 0xdc00)), rest)
      else
        none
    | _ => none
  else
    return (Char.ofNat n, rest)

def unescape (e : Char) : Option Char :=
  if e = '"' then some '"'
  else if e = '\\' then some '\\'
  else if e = '/' then some '/'
  else if e = 'n' then some '\n'
  else if e = 'r' then some '\r'
  else if e = 't' then some '\t'
  else if e = 'f' then some '\x0c'
  else if e = 'b' then some '\x08'
  else none

/-- One character of a string, escaped or not. -/
def scan_char : Parser Char
  | [] => none
  | c :: rest =>
    if c = '\\' then
      match rest with
      | [] => none
      | e :: rest => if e = 'u' then scan_unicode rest else (unescape e).map (·, rest)
    else if c.toNat < 0x20 then none
    else some (c, rest)

/-- The characters up to the closing quote. -/
def scan_chars : Nat → Parser (List Char)
  | 0, _ => none
  | fuel + 1, cs =>
    if cs.head? = some '"' then some ([], cs.tail)
    else do
      let (c, rest) ← scan_char cs
      let (s, rest) ← scan_chars fuel rest
      return (c :: s, rest)

/-- A string, after its opening quote. -/
def scan_string : Parser String := fun cs => do
  let (s, rest) ← scan_chars cs.length cs
  return (String.ofList s, rest)

/-- An unsigned integer without leading zeros, which is no prefix of a float. -/
def scan_nat : Parser Nat := fun cs =>
  let digits := if cs.head? = some '0' then ['0'] else cs.takeWhile Char.isDigit
  let rest := cs.drop digits.length
  if digits = [] ∨ rest.head? = some '.' ∨ rest.head? = some 'e' ∨ rest.head? = some 'E' then
    none
  else
    some (Nat.ofDigitChars 10 digits 0, rest)

def scan_int : Parser Int := fun cs =>
  if cs.head? = some '-' then do
    let (n, rest) ← scan_nat cs.tail
    return (-n, rest)
  else do
    let (n, rest) ← scan_nat cs
    return (n, rest)

/-- The elements after the first, each after a comma, up to `close`. -/
def scan_tail {β : Type} (close : Char) (element : Parser β) : Nat → Parser (List β)
  | 0, _ => none
  | fuel + 1, cs =>
    match skip cs with
    | [] => none
    | c :: rest =>
      if c = close then some ([], rest)
      else if c = ',' then do
        let (v, rest) ← element (skip rest)
        let (vs, rest) ← scan_tail close element fuel rest
        return (v :: vs, rest)
      else none

/-- The elements of a list or dict, after its opening bracket. -/
def scan_elements {β : Type} (close : Char) (element : Parser β) (fuel : Nat) :
    Parser (List β) := fun cs =>
  let cs := skip cs
  if cs.head? = some close then some ([], cs.tail)
  else do
    let (v, rest) ← element cs
    let (vs, rest) ← scan_tail close element fuel rest
    return (v :: vs, rest)

/-- A key, a colon and a value. -/
def scan_item {β : Type} (value : Parser β) : Parser (String × β)
  | [] => none
  | c :: rest =>
    if c = '"' then do
      let (key, rest) ← scan_string rest
      let rest := skip rest
      if rest.head? = some ':' then do
        let (v, rest) ← value (skip rest.tail)
        return ((key, v), rest)
      else none
    else none

def scan_keyword {β : Type} (keyword : List Char) (v : β) : Parser β := fun cs =>
  if keyword.isPrefixOf cs then some (v, cs.drop keyword.length) else none

def scan_value : Nat → Parser (Json Empty)
  | 0, _ => none
  | _ + 1, [] => none
  | fuel + 1, c :: cs =>
    if c = '"' then (scan_string cs).map fun (s, rest) => (.str s, rest)
    else if c = '[' then
      (scan_elements ']' (scan_value fuel) fuel cs).map fun (vs, rest) => (.list vs, rest)
    else if c = '{' then
      (scan_elements '}' (scan_item (scan_value fuel)) fuel cs).map
        fun (items, rest) => (.dict items, rest)
    else if c = 'n' then scan_keyword ['n', 'u', 'l', 'l'] .null (c :: cs)
    else if c = 't' then scan_keyword ['t', 'r', 'u', 'e'] (.bool true) (c :: cs)
    else if c = 'f' then scan_keyword ['f', 'a', 'l', 's', 'e'] (.bool false) (c :: cs)
    else (scan_int (c :: cs)).map fun (n, rest) => (.int n, rest)

/-- `json.loads(s)`. -/
def loads (s : String) : Option (Json Empty) := do
  let cs := skip s.toList
  let (v, rest) ← scan_value cs.length cs
  if skip rest = [] then return v else none

end Json
