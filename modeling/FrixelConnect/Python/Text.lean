import FrixelConnect.Decimals.Context
import Mathlib.Data.List.TakeWhile

/-!
# Text as Python reads it

White space and decimal digits are those of Unicode, since `str.strip`,
`str.isdigit` and `decimal.Decimal` accept all of them. Upper-casing is that of
the ASCII letters; other characters stay as they are.
-/

namespace Python

open Decimals

/-- The characters with the `str.isspace` property. -/
def isSpace (c : Char) : Bool :=
  (9 ≤ c.toNat && c.toNat ≤ 13) || (28 ≤ c.toNat && c.toNat ≤ 32) ||
    (0x2000 ≤ c.toNat && c.toNat ≤ 0x200a) ||
    [0x85, 0xa0, 0x1680, 0x2028, 0x2029, 0x202f, 0x205f, 0x3000].contains c.toNat

/-- The zeros of the Unicode decimal digits; each is followed by the other nine digits. -/
def digitZeros : List ℕ :=
  [0x30, 0x660, 0x6f0, 0x7c0, 0x966, 0x9e6, 0xa66, 0xae6, 0xb66, 0xbe6, 0xc66, 0xce6, 0xd66,
    0xde6, 0xe50, 0xed0, 0xf20, 0x1040, 0x1090, 0x17e0, 0x1810, 0x1946, 0x19d0, 0x1a80, 0x1a90,
    0x1b50, 0x1bb0, 0x1c40, 0x1c50, 0xa620, 0xa8d0, 0xa900, 0xa9d0, 0xa9f0, 0xaa50, 0xabf0,
    0xff10, 0x104a0, 0x10d30, 0x11066, 0x110f0, 0x11136, 0x111d0, 0x112f0, 0x11450, 0x114d0,
    0x11650, 0x116c0, 0x11730, 0x118e0, 0x11950, 0x11c50, 0x11d50, 0x11da0, 0x11f50, 0x16a60,
    0x16ac0, 0x16b50, 0x1d7ce, 0x1d7d8, 0x1d7e2, 0x1d7ec, 0x1d7f6, 0x1e140, 0x1e2f0, 0x1e4f0,
    0x1e950, 0x1fbf0]

/-- The value of a decimal digit. -/
def digitValue (c : Char) : Option ℕ :=
  (digitZeros.find? fun z => z ≤ c.toNat && c.toNat ≤ z + 9).map fun z => c.toNat - z

/-- The first and the last character of each range of digits that are no decimal digits. -/
def otherDigits : List (ℕ × ℕ) :=
  [(0xb2, 0xb3), (0xb9, 0xb9), (0x1369, 0x1371), (0x19da, 0x19da), (0x2070, 0x2070),
    (0x2074, 0x2079), (0x2080, 0x2089), (0x2460, 0x2468), (0x2474, 0x247c), (0x2488, 0x2490),
    (0x24ea, 0x24ea), (0x24f5, 0x24fd), (0x24ff, 0x24ff), (0x2776, 0x277e), (0x2780, 0x2788),
    (0x278a, 0x2792), (0x10a40, 0x10a43), (0x10e60, 0x10e68), (0x11052, 0x1105a),
    (0x1f100, 0x1f10a)]

/-- `text.isdigit()`. -/
def isDigits (s : List Char) : Bool :=
  !s.isEmpty && s.all fun c =>
    (digitValue c).isSome || otherDigits.any fun r => r.1 ≤ c.toNat && c.toNat ≤ r.2

def strip (s : List Char) : List Char :=
  ((s.dropWhile isSpace).reverse.dropWhile isSpace).reverse

def upper (s : List Char) : List Char := s.map Char.toUpper

theorem isSpace_eq_false {c : Char} (h : 33 ≤ c.toNat) (h' : c.toNat < 133) :
    isSpace c = false := by
  simp only [isSpace, List.contains_eq_mem, List.mem_cons, List.not_mem_nil, or_false,
    Bool.or_eq_false_iff, Bool.and_eq_false_iff, decide_eq_false_iff_not]
  omega

theorem isSpace_toUpper (c : Char) : isSpace c.toUpper = isSpace c := by
  by_cases h : 'a'.val ≤ c.val ∧ c.val ≤ 'z'.val
  · have hc : 97 ≤ c.toNat ∧ c.toNat ≤ 122 := by
      simpa [UInt32.le_iff_toNat_le] using h
    have hu : c.toUpper.toNat = c.toNat - 32 := by
      have hupper : c.toUpper = _ := dif_pos h
      rw [hupper]
      simp only [Char.toNat, UInt32.toNat_add, UInt32.toNat_sub] at hc ⊢
      have hA : ('A'.val).toNat = 65 := by decide
      have ha : ('a'.val).toNat = 97 := by decide
      omega
    rw [isSpace_eq_false (by omega) (by omega), isSpace_eq_false (by omega) (by omega)]
  · have hupper : c.toUpper = c := dif_neg h
    rw [hupper]

theorem upper_strip (s : List Char) : upper (strip s) = strip (upper s) := by
  have hf : isSpace ∘ Char.toUpper = isSpace := funext isSpace_toUpper
  unfold upper strip
  rw [List.dropWhile_map, hf, ← List.map_reverse, List.dropWhile_map, hf, ← List.map_reverse]

theorem strip_eq_self {s : List Char} (h : ∀ c ∈ s, isSpace c = false) : strip s = s := by
  have hdrop (t : List Char) (ht : ∀ c ∈ t, isSpace c = false) : t.dropWhile isSpace = t := by
    rw [List.dropWhile_eq_self_iff]
    intro hl
    rw [ht _ (List.getElem_mem hl)]
    decide
  rw [strip, hdrop s h, hdrop s.reverse fun c hc => h c (List.mem_reverse.mp hc),
    List.reverse_reverse]

/-- What `strip` takes away is white space. -/
theorem strip_split (s : List Char) : ∃ front back, s = front ++ strip s ++ back ∧
    (∀ c ∈ front, isSpace c = true) ∧ ∀ c ∈ back, isSpace c = true := by
  refine ⟨s.takeWhile isSpace, ((s.dropWhile isSpace).reverse.takeWhile isSpace).reverse, ?_,
    fun c => List.mem_takeWhile_imp, fun c hc => List.mem_takeWhile_imp (List.mem_reverse.mp hc)⟩
  rw [strip, List.append_assoc, ← List.reverse_append, List.takeWhile_append_dropWhile,
    List.reverse_reverse, List.takeWhile_append_dropWhile]

/-- White space around a text does not matter. -/
theorem strip_append {front back : List Char} (hfront : ∀ c ∈ front, isSpace c = true)
    (hback : ∀ c ∈ back, isSpace c = true) (s : List Char) :
    strip (front ++ s ++ back) = strip s := by
  have hback' : ∀ c ∈ back.reverse, isSpace c = true :=
    fun c hc => hback c (List.mem_reverse.mp hc)
  rw [strip, strip, List.append_assoc, List.dropWhile_append_of_pos hfront]
  by_cases hs : s.dropWhile isSpace = []
  · have hall : ∀ c ∈ s, isSpace c = true := List.dropWhile_eq_nil_iff.mp hs
    rw [List.dropWhile_append_of_pos hall, List.dropWhile_eq_nil_iff.mpr hback, hs]
  · rw [List.dropWhile_append, if_neg (by simpa using hs), List.reverse_append,
      List.dropWhile_append_of_pos hback']

/-- The digits at the front of a text, and what follows them. -/
def spanDigits : List Char → List ℕ × List Char
  | [] => ([], [])
  | c :: rest =>
      match digitValue c with
      | some v => (v :: (spanDigits rest).1, (spanDigits rest).2)
      | none => ([], c :: rest)

def ofDigits (ds : List ℕ) : ℕ := ds.foldl (fun n v => 10 * n + v) 0

/-- An optional sign; `true` is minus. -/
def readSign : List Char → Bool × List Char
  | '-' :: rest => (true, rest)
  | '+' :: rest => (false, rest)
  | cs => (false, cs)

/-- The exponent part of a numeral; nothing may follow it. -/
def readExponent : List Char → Option ℤ
  | [] => some 0
  | c :: rest =>
      if c = 'e' ∨ c = 'E' then
        match spanDigits (readSign rest).2 with
        | (d :: ds, []) =>
            some (if (readSign rest).1 then -(ofDigits (d :: ds) : ℤ) else ofDigits (d :: ds))
        | _ => none
      else none

/-- The digits before and after the decimal point, and what follows them. -/
def readMantissa (cs : List Char) : List ℕ × List ℕ × List Char :=
  match spanDigits cs with
  | (whole, '.' :: rest) => (whole, spanDigits rest)
  | (whole, rest) => (whole, [], rest)

/-- `Decimal(text)`; `none` where the constructor raises. -/
def decimalOfText (s : String) : Option Decimal :=
  let (negative, cs) := readSign ((strip s.toList).filter fun c => c ≠ '_')
  let word := cs.map Char.toLower
  if word = "inf".toList ∨ word = "infinity".toList then some (.infinity negative)
  else if word.take 3 = "nan".toList ∧ (spanDigits (cs.drop 3)).2 = [] then some .nan
  else if word.take 4 = "snan".toList ∧ (spanDigits (cs.drop 4)).2 = [] then some .snan
  else
    match readMantissa cs with
    | (whole, frac, rest) =>
        if whole ++ frac = [] then none
        else (readExponent rest).map fun e =>
          .finite (if negative then -(ofDigits (whole ++ frac) : ℤ) else ofDigits (whole ++ frac))
            (e - frac.length)

example : decimalOfText " -1_0.50e2 " = some (.finite (-1050) 0) := by decide

/-- The value of a hexadecimal digit. -/
def hexValue (c : Char) : Option ℕ :=
  (digitValue c).orElse fun _ =>
    (['a', 'b', 'c', 'd', 'e', 'f'].idxOf? c.toLower).map (· + 10)

/-- Hexadecimal digits, with single underscores between them, after those that make `n`;
`digit` says whether the last character was one. -/
def readHexDigits (n : ℕ) (digit : Bool) : List Char → Option ℕ
  | [] => if digit then some n else none
  | c :: rest =>
      if c = '_' then if digit then readHexDigits n false rest else none
      else (hexValue c).bind fun v => readHexDigits (16 * n + v) true rest

/-- `int(text, 16)`; `none` where it raises. -/
def intOfHex (s : List Char) : Option ℤ :=
  let (negative, cs) := readSign (strip s)
  let digits := match cs with
    | '0' :: 'x' :: '_' :: rest => rest
    | '0' :: 'X' :: '_' :: rest => rest
    | '0' :: 'x' :: rest => rest
    | '0' :: 'X' :: rest => rest
    | cs => cs
  (readHexDigits 0 false digits).map fun n => if negative then -(n : ℤ) else n

/-- Decimal digits, with single underscores between them, after those that make `n`; `digit` says
whether the last character was one. -/
def readDigits (n : ℕ) (digit : Bool) : List Char → Option ℕ
  | [] => if digit then some n else none
  | c :: rest =>
      if c = '_' then if digit then readDigits n false rest else none
      else (digitValue c).bind fun v => readDigits (10 * n + v) true rest

/-- `int(text)`; `none` where it raises, as for more than 4300 digits. -/
def intOfText (s : List Char) : Option ℤ :=
  let (negative, cs) := readSign (strip s)
  if 4300 < (cs.filter fun c => c ≠ '_').length then none
  else (readDigits 0 false cs).map fun n => if negative then -(n : ℤ) else n

/-- The text without the occurrences of a word, of which `skip` characters are still to go. -/
def removeWord (word : List Char) (skip : ℕ) : List Char → List Char
  | [] => []
  | c :: rest =>
      match skip with
      | skip + 1 => removeWord word skip rest
      | 0 =>
          if word.isPrefixOf (c :: rest) then removeWord word (word.length - 1) rest
          else c :: removeWord word 0 rest

/-- `str(Decimal)` of a number with the given decimal digits and exponent. -/
def numeral (digits : List Char) (exp : ℤ) : List Char :=
  let left := exp + digits.length
  let dot := if exp ≤ 0 ∧ -6 < left then left else 1
  let mantissa :=
    if dot ≤ 0 then '0' :: '.' :: (List.replicate (-dot).toNat '0' ++ digits)
    else if digits.length ≤ dot then digits ++ List.replicate (dot - digits.length).toNat '0'
    else digits.take dot.toNat ++ '.' :: digits.drop dot.toNat
  if left = dot then mantissa
  else mantissa ++ 'E' :: (if left < dot then [] else ['+']) ++ (toString (left - dot)).toList

/-- `str(d)`. -/
def decimalStr : Decimal → String
  | .finite c e =>
      String.ofList ((if c < 0 then ['-'] else []) ++ numeral (toString c.natAbs).toList e)
  | .infinity negative => if negative then "-Infinity" else "Infinity"
  | .nan => "NaN"
  | .snan => "sNaN"

end Python
