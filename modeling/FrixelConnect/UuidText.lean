import FrixelConnect.Daraja

/-!
# Ids in texts

An id that was written with `str` is read back by `UUID`.
-/

namespace FrixelConnect

namespace UUID

open Python

/-- The hexadecimal digits of an id. -/
def nibbles (u : UUID) : List Char :=
  (List.range 32).map fun i => hexDigit (u.toNat / 16 ^ (31 - i) % 16)

/-- A hexadecimal digit is no other character. -/
theorem hexDigit_ne {c : Char} (hc : c ∉ "0123456789abcdef".toList) (k : ℕ) : hexDigit k ≠ c :=
  fun h => hc (h ▸ hexDigit_mem k)

theorem hexValue_hexDigit {k : ℕ} (hk : k < 16) : hexValue (hexDigit k) = some k := by
  revert hk
  revert k
  decide +kernel

theorem filter_str (u : UUID) : u.str.filter (· ≠ '-') = u.nibbles := by
  have hne (k : ℕ) : hexDigit k ≠ '-' := hexDigit_ne (by decide) k
  rw [str, List.filter_flatMap, nibbles, ← List.flatMap_singleton' (l := List.map _ _),
    List.flatMap_map]
  apply List.flatMap_congr
  intro i _
  split <;> simp [hne]

theorem removeWord_eq_self {word : List Char} {s : List Char} {c : Char} (hc : c ∈ word)
    (h : c ∉ s) : removeWord word 0 s = s := by
  induction s with
  | nil => rfl
  | cons a rest ih =>
      have hprefix : word.isPrefixOf (a :: rest) = false := by
        rw [Bool.eq_false_iff]
        intro hp
        exact h ((List.isPrefixOf_iff_prefix.mp hp).subset hc)
      rw [removeWord, hprefix]
      simp only [Bool.false_eq_true, if_false]
      rw [ih fun hmem => h (List.mem_cons_of_mem _ hmem)]

theorem dropWhile_eq_self {p : Char → Bool} {s : List Char} (h : ∀ c ∈ s, p c = false) :
    s.dropWhile p = s := by
  rw [List.dropWhile_eq_self_iff]
  intro hl
  rw [h _ (List.getElem_mem hl)]
  decide

theorem readSign_eq_self {cs : List Char} (hminus : '-' ∉ cs) (hplus : '+' ∉ cs) :
    readSign cs = (false, cs) := by
  unfold readSign
  split
  · exact absurd List.mem_cons_self hminus
  · exact absurd List.mem_cons_self hplus
  · rfl

theorem intOfHex_eq {cs : List Char} (hspace : ∀ c ∈ cs, isSpace c = false) (hminus : '-' ∉ cs)
    (hplus : '+' ∉ cs) (hx : 'x' ∉ cs) (hX : 'X' ∉ cs) :
    intOfHex cs = (readHexDigits 0 false cs).map Int.ofNat := by
  simp only [intOfHex, strip_eq_self hspace, readSign_eq_self hminus hplus, Bool.false_eq_true,
    if_false]
  split
  · simp at hx
  · simp at hX
  · simp at hx
  · simp at hX
  · cases readHexDigits 0 false cs <;> rfl

/-- A numeral of hexadecimal digits. -/
theorem readHexDigits_map {f : ℕ → ℕ} (hf : ∀ i, f i < 16) (is : List ℕ) (n : ℕ) :
    readHexDigits n true (is.map fun i => hexDigit (f i)) =
      some (is.foldl (fun a i => 16 * a + f i) n) := by
  induction is generalizing n with
  | nil => rfl
  | cons i is ih =>
      rw [List.map_cons, readHexDigits, if_neg (hexDigit_ne (by decide) _),
        hexValue_hexDigit (hf i), Option.bind_some, ih, List.foldl_cons]

/-- The first digits of a number make its leading part. -/
theorem foldl_digits (x : ℕ) {l m : ℕ} (h : l ≤ m) :
    (List.range l).foldl (fun a i => 16 * a + x / 16 ^ (m - 1 - i) % 16) 0 =
      x / 16 ^ (m - l) % 16 ^ l := by
  induction l with
  | zero => simp [Nat.mod_one]
  | succ l ih =>
      have hexp : m - 1 - l = m - (l + 1) := by omega
      have hpow : 16 ^ (m - l) = 16 ^ (m - (l + 1)) * 16 := by
        rw [← pow_succ]
        congr 1
        omega
      rw [List.range_succ, List.foldl_append, List.foldl_cons, List.foldl_nil, ih (by omega), hexp,
        hpow, ← Nat.div_div_eq_div_mul, pow_succ', Nat.mod_mul]
      omega

theorem intOfHex_nibbles (u : UUID) : intOfHex u.nibbles = some (u.toNat : ℤ) := by
  have hmem {c : Char} (hc : c ∈ u.nibbles) : c ∈ "0123456789abcdef".toList := by
    obtain ⟨i, -, rfl⟩ := List.mem_map.mp hc
    exact hexDigit_mem _
  have hspace : ∀ c ∈ "0123456789abcdef".toList, isSpace c = false := fun c hc => by
    have hletters : ("0123456789abcdef".toList.all fun c => !isSpace c) = true := by decide
    simpa using List.all_eq_true.mp hletters c hc
  rw [intOfHex_eq (fun c hc => hspace c (hmem hc)) (fun h => absurd (hmem h) (by decide))
    (fun h => absurd (hmem h) (by decide)) (fun h => absurd (hmem h) (by decide))
    (fun h => absurd (hmem h) (by decide))]
  have hall : readHexDigits 0 false u.nibbles = readHexDigits 0 true u.nibbles := by
    obtain ⟨c, rest, hc⟩ := List.exists_cons_of_ne_nil (l := u.nibbles) (by simp [nibbles])
    have hne : c ≠ '_' := by
      rintro rfl
      exact absurd (hmem (hc ▸ List.mem_cons_self)) (by decide)
    rw [hc, readHexDigits, if_neg hne, readHexDigits, if_neg hne]
  rw [hall, nibbles, readHexDigits_map (fun i => Nat.mod_lt _ (by decide)),
    foldl_digits u.toNat (l := 32) (m := 32) (Nat.le_refl _), Option.map_some]
  have hlt : u.toNat < 16 ^ 32 := u.isLt
  rw [Nat.sub_self, pow_zero, Nat.div_one, Nat.mod_eq_of_lt hlt]
  rfl

/-- The characters around the digits of an id. -/
def brace (c : Char) : Bool := c == '\x7b' || c == '\x7d'

theorem ofText_eq {s : String} {u : UUID}
    (h : ((((removeWord "uuid:".toList 0 (removeWord "urn:".toList 0 s.toList)).dropWhile
      brace).reverse.dropWhile brace).reverse).filter (· ≠ '-') = u.nibbles) :
    ofText s = some u := by
  have hread : ofText s = if u.nibbles.length = 32 then
      (intOfHex u.nibbles).bind fun n =>
        if 0 ≤ n ∧ n < 2 ^ 128 then some (BitVec.ofInt 128 n) else none
      else none := by
    rw [← h]
    rfl
  have hlength : u.nibbles.length = 32 := by simp [nibbles]
  have hbound : 0 ≤ (u.toNat : ℤ) ∧ (u.toNat : ℤ) < 2 ^ 128 :=
    ⟨Int.natCast_nonneg _, by exact_mod_cast u.isLt⟩
  rw [hread, if_pos hlength, intOfHex_nibbles, Option.bind_some, if_pos hbound,
    BitVec.ofInt_natCast, BitVec.ofNat_toNat, BitVec.setWidth_eq]

theorem ofText_str (u : UUID) : ofText (FrixelConnect.str u) = some u := by
  have hfree {c : Char} (hne : c ≠ '-') (hdigit : c ∉ "0123456789abcdef".toList) : c ∉ u.str :=
    fun h => (mem_str h).elim hne hdigit
  have hbrace : ∀ c ∈ u.str, brace c = false := by
    intro c hc
    rw [brace, Bool.or_eq_false_iff, beq_eq_false_iff_ne, beq_eq_false_iff_ne]
    constructor <;> rintro rfl
    · exact hfree (by decide) (by decide) hc
    · exact hfree (by decide) (by decide) hc
  have hurn : removeWord "urn:".toList 0 u.str = u.str :=
    removeWord_eq_self (c := 'u') (by decide) (hfree (by decide) (by decide))
  have huuid : removeWord "uuid:".toList 0 u.str = u.str :=
    removeWord_eq_self (c := 'u') (by decide) (hfree (by decide) (by decide))
  have hlist : (FrixelConnect.str u).toList = u.str := String.toList_ofList
  apply ofText_eq
  rw [hlist, hurn, huuid, dropWhile_eq_self hbrace,
    dropWhile_eq_self fun c hc => hbrace c (List.mem_reverse.mp hc), List.reverse_reverse,
    filter_str]

end UUID

end FrixelConnect
