import FrixelConnect.Statements
import FrixelConnect.Python.Text

/-!
# Phone numbers

`normalise_phone` brings a spelling of a Kenyan mobile number to the form that Daraja takes.

## Implementation notes

A spelling is the subscriber number alone, behind `0` or behind `254`, with any number of
plus signs, spaces and dashes in it and white space around it. `str.isdigit` takes every
Unicode digit, so a spelling need not be one in ASCII digits.
-/

namespace FrixelConnect

open Python

/-- `phone.strip().replace("+", "").replace(" ", "").replace("-", "")`. -/
def cleaned (phone : String) : List Char :=
  (((strip phone.toList).filter (· != '+')).filter (· != ' ')).filter (· != '-')

def normalise_phone (phone : String) : Except Exn String :=
  let text := cleaned phone
  if isDigits text = false then
    .error (.valueError "Phone number must contain digits only.")
  else if "0".toList.isPrefixOf text ∧ text.length = 10 ∧
      (text[1]? = some '7' ∨ text[1]? = some '1') then
    .ok (String.ofList ("254".toList ++ text.drop 1))
  else if "254".toList.isPrefixOf text ∧ text.length = 12 ∧
      (text[3]? = some '7' ∨ text[3]? = some '1') then
    .ok (String.ofList text)
  else if text.length = 9 ∧ (text[0]? = some '7' ∨ text[0]? = some '1') then
    .ok (String.ofList ("254".toList ++ text))
  else
    .error (.valueError ("Invalid Kenyan phone number: '" ++ phone ++
      "'. Must be a valid 07... or 01... number."))

/-- `STKPushRequest.validate_phone`. -/
def validate_phone (v : String) : Except Exn String :=
  (normalise_phone v).mapError fun e => .valueError e.str

namespace Phone

/-- `c.isdigit()`. -/
def IsDigit (c : Char) : Prop := isDigits [c] = true

instance : DecidablePred IsDigit := fun c => inferInstanceAs (Decidable (isDigits [c] = true))

/-- An ASCII digit. -/
def Ascii (c : Char) : Prop := '0' ≤ c ∧ c ≤ '9'

instance : DecidablePred Ascii := fun c => inferInstanceAs (Decidable ('0' ≤ c ∧ c ≤ '9'))

/-- A subscriber number: 7 or 1 and eight more digits of some kind. -/
def Subscriber (digit : Char → Prop) (n : List Char) : Prop :=
  ∃ c rest, n = c :: rest ∧ (c = '7' ∨ c = '1') ∧ rest.length = 8 ∧ ∀ d ∈ rest, digit d

/-- Characters that may stand anywhere in a spelling. -/
def Separator (c : Char) : Prop := c = '+' ∨ c = ' ' ∨ c = '-'

instance : DecidablePred Separator :=
  fun c => inferInstanceAs (Decidable (c = '+' ∨ c = ' ' ∨ c = '-'))

/-- The ways to write a subscriber number. -/
def forms (n : List Char) : List (List Char) := ['0' :: n, n, '2' :: '5' :: '4' :: n]

/-- The text reads as the number. -/
def Spells (s : String) (n : List Char) : Prop :=
  ∃ front body back, s.toList = front ++ body ++ back ∧ (∀ c ∈ front, isSpace c = true) ∧
    (∀ c ∈ back, isSpace c = true) ∧ body.filter (fun c => ¬ Separator c) ∈ forms n

/-- What Daraja takes for a subscriber number. -/
def international (n : List Char) : String := String.ofList ('2' :: '5' :: '4' :: n)

variable {s r : String} {n m : List Char}

theorem cleaned_eq : cleaned s = (strip s.toList).filter fun c => ¬ Separator c := by
  simp only [cleaned, List.filter_filter, Separator]
  congr 1
  funext c
  by_cases h₁ : c = '+' <;> by_cases h₂ : c = ' ' <;> by_cases h₃ : c = '-' <;> simp [h₁, h₂, h₃]

/-- The white space characters. -/
def spaces : List ℕ :=
  [9, 10, 11, 12, 13, 28, 29, 30, 31, 32, 0x2000, 0x2001, 0x2002, 0x2003, 0x2004, 0x2005, 0x2006,
    0x2007, 0x2008, 0x2009, 0x200a, 0x85, 0xa0, 0x1680, 0x2028, 0x2029, 0x202f, 0x205f, 0x3000]

/-- A digit is no white space. -/
theorem IsDigit.not_space {c : Char} (h : IsDigit c) : isSpace c = false := by
  by_contra hs
  rw [Bool.not_eq_false] at hs
  have hmem : c.toNat ∈ spaces := by
    simp only [isSpace, Bool.or_eq_true, Bool.and_eq_true, decide_eq_true_eq, List.contains_eq_mem,
      List.mem_cons, List.not_mem_nil, or_false] at hs
    simp only [spaces, List.mem_cons, List.not_mem_nil, or_false]
    omega
  have hall : ∀ k ∈ spaces, isDigits [Char.ofNat k] = false := by decide +kernel
  have hc := hall c.toNat hmem
  rw [Char.ofNat_toNat] at hc
  exact absurd h (by rw [IsDigit, hc]; decide)

theorem IsDigit.not_separator {c : Char} (h : IsDigit c) : ¬ Separator c := by
  rintro (rfl | rfl | rfl) <;> revert h <;> decide +kernel

theorem isDigits_iff {cs : List Char} : isDigits cs = true ↔ cs ≠ [] ∧ ∀ c ∈ cs, IsDigit c := by
  simp [IsDigit, isDigits]

theorem Ascii.isDigit {c : Char} (h : Ascii c) : IsDigit c := by
  have hlow : 0x30 ≤ c.toNat := Char.le_def.mp h.1
  have hhigh : c.toNat ≤ 0x39 := Char.le_def.mp h.2
  have hfind : (digitValue c).isSome = true := by
    rw [digitValue, Option.isSome_map, List.find?_isSome]
    refine ⟨0x30, List.mem_cons_self, ?_⟩
    rw [decide_eq_true hlow, decide_eq_true (show c.toNat ≤ 0x30 + 9 by omega)]
    rfl
  simp [IsDigit, isDigits, hfind]

/-- All characters of a subscriber number are digits. -/
theorem Subscriber.digits {digit : Char → Prop} (h7 : digit '7') (h1 : digit '1')
    (h : Subscriber digit n) : ∀ c ∈ n, digit c := by
  obtain ⟨c, rest, rfl, hc, -, hrest⟩ := h
  intro d hd
  rcases List.mem_cons.mp hd with rfl | hd
  · rcases hc with rfl | rfl
    · exact h7
    · exact h1
  · exact hrest d hd

theorem Subscriber.isDigit (h : Subscriber IsDigit n) : ∀ c ∈ n, IsDigit c :=
  h.digits (by decide +kernel) (by decide +kernel)

theorem Subscriber.mono {digit digit' : Char → Prop} (h : Subscriber digit n)
    (himp : ∀ c ∈ n, digit c → digit' c) : Subscriber digit' n := by
  obtain ⟨c, rest, rfl, hc, hlength, hrest⟩ := h
  exact ⟨c, rest, rfl, hc, hlength, fun d hd => himp d (List.mem_cons_of_mem c hd) (hrest d hd)⟩

theorem Subscriber.length {digit : Char → Prop} (h : Subscriber digit n) : n.length = 9 := by
  obtain ⟨c, rest, rfl, -, hlength, -⟩ := h
  rw [List.length_cons, hlength]

/-- The tests of the source on the part behind the prefix. -/
theorem subscriber_iff (h : ∀ c ∈ n, IsDigit c) :
    Subscriber IsDigit n ↔ n.length = 9 ∧ (n[0]? = some '7' ∨ n[0]? = some '1') := by
  constructor
  · rintro ⟨c, rest, rfl, hc, hlength, -⟩
    exact ⟨by rw [List.length_cons, hlength], by simpa using hc⟩
  · rintro ⟨hlength, hhead⟩
    cases n with
    | nil => simp at hlength
    | cons c rest =>
        refine ⟨c, rest, rfl, by simpa using hhead, by simpa using hlength, ?_⟩
        intro d hd
        exact h d (List.mem_cons_of_mem c hd)

theorem forms_digits (hn : Subscriber IsDigit n) {text : List Char} (h : text ∈ forms n) :
    ∀ c ∈ text, IsDigit c := by
  have hascii : ∀ c ∈ ['0', '2', '5', '4'], Ascii c := by simp [Ascii]
  have hfront : ∀ c ∈ ['0', '2', '5', '4'], IsDigit c := fun c hc => (hascii c hc).isDigit
  have hall := hn.isDigit
  simp only [forms, List.mem_cons, List.not_mem_nil, or_false] at h
  rcases h with rfl | rfl | rfl <;> intro c hc
  · rcases List.mem_cons.mp hc with rfl | hc
    · exact hfront _ (by simp)
    · exact hall c hc
  · exact hall c hc
  · simp only [List.mem_cons] at hc
    rcases hc with rfl | rfl | rfl | hc
    · exact hfront _ (by simp)
    · exact hfront _ (by simp)
    · exact hfront _ (by simp)
    · exact hall c hc

/-- The number stands at the end of a form. -/
theorem drop_form (hn : n.length = 9) {text : List Char} (h : text ∈ forms n) :
    text.drop (text.length - 9) = n := by
  simp only [forms, List.mem_cons, List.not_mem_nil, or_false] at h
  rcases h with rfl | rfl | rfl <;> simp [hn]

/-- The source cleans a spelling to one of the forms. -/
theorem spells_iff (hn : Subscriber IsDigit n) : Spells s n ↔ cleaned s ∈ forms n := by
  constructor
  · rintro ⟨front, body, back, hs, hfront, hback, hbody⟩
    rw [cleaned_eq, hs, strip_append hfront hback]
    obtain ⟨f, b, hsplit, hf, hb⟩ := strip_split body
    have hnil (l : List Char) (hl : l ⊆ body) (hspace : ∀ c ∈ l, isSpace c = true) :
        l.filter (fun c => ¬ Separator c) = [] := by
      rw [List.filter_eq_nil_iff]
      intro c hc hsep
      have hmem : c ∈ body.filter fun c => ¬ Separator c := List.mem_filter.mpr ⟨hl hc, hsep⟩
      have := (forms_digits hn hbody c hmem).not_space
      rw [hspace c hc] at this
      cases this
    have hfilter : body.filter (fun c => ¬ Separator c) =
        (strip body).filter fun c => ¬ Separator c := by
      conv_lhs => rw [hsplit]
      rw [List.filter_append, List.filter_append,
        hnil f (by rw [hsplit]; simp) hf, hnil b (by rw [hsplit]; simp) hb, List.append_nil,
        List.nil_append]
    rwa [← hfilter]
  · intro h
    obtain ⟨front, back, hs, hfront, hback⟩ := strip_split s.toList
    exact ⟨front, _, back, hs, hfront, hback, by rwa [← cleaned_eq]⟩

/-- A text is read as one number at most. -/
theorem Spells.unique (hn : Subscriber IsDigit n) (hm : Subscriber IsDigit m) (h : Spells s n)
    (h' : Spells s m) : n = m := by
  rw [spells_iff hn] at h
  rw [spells_iff hm] at h'
  exact (drop_form hn.length h).symm.trans (drop_form hm.length h')

theorem international_inj (h : international n = international m) : n = m := by
  have := congrArg String.toList h
  simpa [international] using this

theorem normalise_of_forms (hn : Subscriber IsDigit n) (h : cleaned s ∈ forms n) :
    normalise_phone s = .ok (international n) := by
  obtain ⟨hlength, hhead⟩ := (subscriber_iff hn.isDigit).mp hn
  have hdigits : isDigits (cleaned s) = true := by
    rw [isDigits_iff]
    refine ⟨fun hnil => ?_, forms_digits hn h⟩
    have hdrop := drop_form hlength h
    rw [hnil, List.drop_nil] at hdrop
    rw [← hdrop] at hlength
    cases hlength
  simp only [forms, List.mem_cons, List.not_mem_nil, or_false] at h
  simp only [normalise_phone]
  rw [if_neg (by simp [hdigits])]
  rcases h with h | h | h
  · have hten : (cleaned s).length = 10 := by rw [h, List.length_cons, hlength]
    rw [if_pos ⟨by rw [h]; rfl, hten, by rw [h]; exact hhead⟩, h]
    rfl
  · have hnine : (cleaned s).length = 9 := by rw [h, hlength]
    rw [if_neg (by omega), if_neg (by omega), if_pos ⟨hnine, by rw [h]; exact hhead⟩, h]
    rfl
  · have htwelve : (cleaned s).length = 12 := by
      rw [h, List.length_cons, List.length_cons, List.length_cons, hlength]
    rw [if_neg (by omega), if_pos ⟨by rw [h]; rfl, htwelve, by rw [h]; exact hhead⟩, h]
    rfl

theorem forms_of_normalise (h : normalise_phone s = .ok r) :
    ∃ n, Subscriber IsDigit n ∧ cleaned s ∈ forms n ∧ r = international n := by
  simp only [normalise_phone] at h
  by_cases hdigits : isDigits (cleaned s) = false
  · rw [if_pos hdigits] at h
    cases h
  rw [if_neg hdigits] at h
  rw [Bool.not_eq_false, isDigits_iff] at hdigits
  have hall := hdigits.2
  split at h
  next hzero =>
    obtain ⟨hfront, hlength, hhead⟩ := hzero
    obtain ⟨n, hn⟩ := List.isPrefixOf_iff_prefix.mp hfront
    rw [← hn] at hall hlength hhead h
    refine ⟨n, (subscriber_iff fun c hc => hall c (List.mem_append_right _ hc)).mpr ⟨?_, ?_⟩,
      by rw [← hn]; simp [forms], ?_⟩
    · simpa using hlength
    · simpa using hhead
    · cases h
      rfl
  next =>
    split at h
    next hfull =>
      obtain ⟨hfront, hlength, hhead⟩ := hfull
      obtain ⟨n, hn⟩ := List.isPrefixOf_iff_prefix.mp hfront
      rw [← hn] at hall hlength hhead h
      refine ⟨n, (subscriber_iff fun c hc => hall c (List.mem_append_right _ hc)).mpr ⟨?_, ?_⟩,
        by rw [← hn]; simp [forms], ?_⟩
      · simpa using hlength
      · simpa using hhead
      · cases h
        rfl
    next =>
      split at h
      next hbare =>
        refine ⟨cleaned s, (subscriber_iff hall).mpr hbare, by simp [forms], ?_⟩
        cases h
        rfl
      next => cases h

/-- `normalise_phone` accepts the spellings of subscriber numbers, in digits of any kind. -/
theorem normalise_eq_ok : normalise_phone s = .ok r ↔
    ∃ n, Subscriber IsDigit n ∧ Spells s n ∧ r = international n := by
  constructor
  · intro h
    obtain ⟨n, hn, hmem, hr⟩ := forms_of_normalise h
    exact ⟨n, hn, (spells_iff hn).mpr hmem, hr⟩
  · rintro ⟨n, hn, hs, rfl⟩
    exact normalise_of_forms hn ((spells_iff hn).mp hs)

/-- It raises nothing but `ValueError`. -/
theorem normalise_error {e : Exn} (h : normalise_phone s = .error e) : ∃ m, e = .valueError m := by
  simp only [normalise_phone] at h
  split_ifs at h <;> cases h <;> exact ⟨_, rfl⟩

/-- The message survives the validator. -/
theorem validate_phone_eq (v : String) : validate_phone v = normalise_phone v := by
  cases h : normalise_phone v with
  | ok r => rw [validate_phone, h]; rfl
  | error e =>
      obtain ⟨m, rfl⟩ := normalise_error h
      rw [validate_phone, h]
      rfl

theorem spells_international (hn : Subscriber IsDigit n) : Spells (international n) n := by
  have hmem : '2' :: '5' :: '4' :: n ∈ forms n := by simp [forms]
  refine ⟨[], '2' :: '5' :: '4' :: n, [], by simp [international], by simp, by simp, ?_⟩
  rw [List.filter_eq_self.mpr]
  · exact hmem
  · intro c hc
    simpa using (forms_digits hn hmem c hc).not_separator

theorem normalise_international (hn : Subscriber IsDigit n) :
    normalise_phone (international n) = .ok (international n) :=
  normalise_eq_ok.mpr ⟨n, hn, spells_international hn, rfl⟩

/-- Two spellings of one subscriber number. -/
def SameNumber (s s' : String) : Prop := ∃ n, Subscriber Ascii n ∧ Spells s n ∧ Spells s' n

/-- What `normalise_phone` is for, at one text. -/
structure Normalised (s : String) : Prop where
  only_value_error : ∀ e, normalise_phone s = .error e → ∃ m, e = .valueError m
  form : ∀ r, normalise_phone s = .ok r → ∃ n, Subscriber Ascii n ∧ r = international n
  identity : ∀ r, normalise_phone s = .ok r → normalise_phone r = .ok r
  same : ∀ r s' r', normalise_phone s = .ok r → normalise_phone s' = .ok r' →
    (r = r' ↔ SameNumber s s')

/-- The text is a spelling whose digits are not all ASCII. -/
def Foreign (s : String) : Prop :=
  ∃ n, Subscriber IsDigit n ∧ Spells s n ∧ ¬ ∀ c ∈ n, Ascii c

theorem Subscriber.ascii (h : Subscriber Ascii n) : Subscriber IsDigit n :=
  h.mono fun _ _ => Ascii.isDigit

/-- Normalising does what it is for unless a spelling has a digit outside ASCII. -/
theorem normalised_iff (s : String) : Normalised s ↔ ¬ Foreign s := by
  constructor
  · rintro h ⟨n, hn, hs, hforeign⟩
    obtain ⟨m, hm, heq⟩ := h.form _ (normalise_eq_ok.mpr ⟨n, hn, hs, rfl⟩)
    rw [international_inj heq] at hforeign
    exact hforeign (hm.digits (by decide) (by decide))
  · intro hforeign
    have hascii {n : List Char} (hn : Subscriber IsDigit n) (hs : Spells s n) :
        Subscriber Ascii n := by
      apply hn.mono
      intro c hc _
      by_contra hc'
      exact hforeign ⟨n, hn, hs, fun hall => hc' (hall c hc)⟩
    constructor
    · exact fun e => normalise_error
    · intro r hr
      obtain ⟨n, hn, hs, rfl⟩ := normalise_eq_ok.mp hr
      exact ⟨n, hascii hn hs, rfl⟩
    · intro r hr
      obtain ⟨n, hn, -, rfl⟩ := normalise_eq_ok.mp hr
      exact normalise_international hn
    · intro r s' r' hr hr'
      obtain ⟨n, hn, hs, rfl⟩ := normalise_eq_ok.mp hr
      obtain ⟨m, hm, hs', rfl⟩ := normalise_eq_ok.mp hr'
      constructor
      · intro heq
        rw [← international_inj heq] at hs'
        exact ⟨n, hascii hn hs, hs, hs'⟩
      · rintro ⟨k, hk, hsk, hsk'⟩
        rw [hs.unique hn hk.ascii hsk, hs'.unique hm hk.ascii hsk']

/-- A number whose last digits are Arabic-Indic. -/
theorem not_normalised : ¬ Normalised "0712345\u0666\u0667\u0668" := by
  intro h
  have hok : normalise_phone "0712345\u0666\u0667\u0668" = .ok "254712345\u0666\u0667\u0668" := by
    decide +kernel
  obtain ⟨n, hn, heq⟩ := h.form _ hok
  have hlist : n = "712345\u0666\u0667\u0668".toList := by
    apply international_inj
    rw [← heq]
    decide +kernel
  have hmem : '\u0666' ∈ n := by rw [hlist]; decide +kernel
  exact absurd (hn.digits (by decide) (by decide) _ hmem) (by decide)

end Phone

end FrixelConnect
