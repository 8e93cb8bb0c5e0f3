/-
Module: SwaggerDocs.Proofs.Swagger.ResponseKey
Purpose: The keys of responses and their texts. A text is read as the status that it writes, with or
  without a sign and leading zeros, and never as one that is only in the last bits of its number. A
  valid key is read back from its own text, and the texts are in the order of the keys.
Main exports: ResponseKey.Valid, ResponseKey.IsNumeral, ResponseKey.parse?_eq_status_iff,
  ResponseKey.parse?_display, ResponseKey.parse?_digits_iff, ResponseKey.keys_and_texts
-/
import Mathlib.Data.List.Basic
import Mathlib.Order.Lattice
import SwaggerDocs.Swagger.Vocabulary

namespace SwaggerDocs.ResponseKey

/-- A key that documents know: the default one, or a status from 100 to 599. -/
def Valid : ResponseKey → Prop
  | .default => True
  | .status code => isStatus code = true

theorem rank_injective : Function.Injective rank := by
  intro key other same
  cases key <;> cases other <;> simp_all [rank]

/-- Keys are ordered by their ranks. -/
instance : LinearOrder ResponseKey where
  le a b := a.rank ≤ b.rank
  lt a b := a.rank < b.rank
  le_refl a := Nat.le_refl a.rank
  le_trans _ _ _ := Nat.le_trans
  lt_iff_le_not_ge _ _ := Nat.lt_iff_le_and_not_ge
  le_antisymm _ _ below above := rank_injective (Nat.le_antisymm below above)
  le_total a b := Nat.le_total a.rank b.rank
  toDecidableLE a b := inferInstanceAs (Decidable (a.rank ≤ b.rank))
  toDecidableEq := inferInstance
  toDecidableLT := inferInstanceAs (DecidableLT ResponseKey)

/-! ### Decimal texts

What a text writes is said without the reader, by the digits and their value at any size. The reader
computes with 16 bits and checks at each digit, so it accepts a text exactly if the number fits. -/

/-- A number never gets smaller by a further digit. -/
theorem le_ofDigitChars (cs : List Char) (start : Nat) : start ≤ Nat.ofDigitChars 10 cs start := by
  induction cs generalizing start with
  | nil => rfl
  | cons c cs ih =>
      rw [Nat.ofDigitChars_cons]
      have longer := ih (10 * start + (c.toNat - '0'.toNat))
      omega

/-- One more digit is taken if the longer number has 16 bits. -/
theorem pushDigit?_eq_some_iff {number longer : UInt16} {c : Char} :
    pushDigit? number c = some longer ↔
      c.isDigit = true ∧ 10 * number.toNat + (c.toNat - '0'.toNat) = longer.toNat := by
  rw [pushDigit?, Nat.mul_comm number.toNat]
  constructor
  · intro pushed
    split at pushed
    · rename_i digit
      refine ⟨digit, ?_⟩
      dsimp only at pushed
      split at pushed
      · rename_i small
        cases pushed
        exact (UInt16.toNat_ofNat_of_lt' small).symm
      · cases pushed
    · cases pushed
  · rintro ⟨digit, value⟩
    simp only [digit, value, UInt16.toNat_lt_size, UInt16.ofNat_toNat, if_true]

/-- Digits are taken in one after another. Any other character spoils the number, and so does a digit
    that takes it beyond 16 bits, since no later digit takes it back. -/
theorem foldlM_pushDigit?_eq_some_iff {cs : List Char} {start number : UInt16} :
    cs.foldlM pushDigit? start = some number ↔
      (∀ c ∈ cs, c.isDigit = true) ∧ Nat.ofDigitChars 10 cs start.toNat = number.toNat := by
  induction cs generalizing start with
  | nil =>
      rw [List.foldlM_nil, Option.pure_def, Option.some.injEq, Nat.ofDigitChars_nil,
        UInt16.toNat_inj]
      simp
  | cons c cs ih =>
      rw [List.foldlM_cons, Option.bind_eq_bind, Option.bind_eq_some_iff, List.forall_mem_cons,
        Nat.ofDigitChars_cons]
      constructor
      · rintro ⟨longer, pushed, folded⟩
        obtain ⟨digit, value⟩ := pushDigit?_eq_some_iff.1 pushed
        obtain ⟨digits, total⟩ := ih.1 folded
        exact ⟨⟨digit, digits⟩, value ▸ total⟩
      · rintro ⟨⟨digit, digits⟩, total⟩
        have small : 10 * start.toNat + (c.toNat - '0'.toNat) < UInt16.size :=
          calc 10 * start.toNat + (c.toNat - '0'.toNat)
              ≤ number.toNat := total ▸ le_ofDigitChars cs _
            _ < UInt16.size := number.toNat_lt_size
        have value := UInt16.toNat_ofNat_of_lt' small
        exact ⟨.ofNat _, pushDigit?_eq_some_iff.2 ⟨digit, value.symm⟩,
          ih.2 ⟨digits, value.symm ▸ total⟩⟩

/-- Digits are read as the number that they write, if this has 16 bits. -/
theorem decimal?_eq_some_iff {cs : List Char} {number : UInt16} :
    decimal? cs = some number ↔
      cs ≠ [] ∧ (∀ c ∈ cs, c.isDigit = true) ∧ Nat.ofDigitChars 10 cs 0 = number.toNat := by
  cases cs with
  | nil => simp [decimal?]
  | cons c cs =>
      rw [decimal?, foldlM_pushDigit?_eq_some_iff]
      · simp
      · simp

/-- Digits write a number, perhaps after one plus sign. Any number of leading ones may be zero. -/
def IsNumeral (cs : List Char) (number : Nat) : Prop :=
  ∃ sign digits : List Char, (sign = [] ∨ sign = ['+']) ∧ cs = sign ++ digits ∧ digits ≠ [] ∧
    (∀ c ∈ digits, c.isDigit = true) ∧ Nat.ofDigitChars 10 digits 0 = number

theorem ne_plus_of_digits {cs : List Char} (digits : ∀ c ∈ cs, c.isDigit = true) (rest : List Char) :
    cs ≠ '+' :: rest := by
  rintro rfl
  exact absurd (digits '+' List.mem_cons_self) (by decide)

/-- Digits write their number without a sign. -/
theorem isNumeral_of_digits {cs : List Char} (nonempty : cs ≠ [])
    (digits : ∀ c ∈ cs, c.isDigit = true) : IsNumeral cs (Nat.ofDigitChars 10 cs 0) :=
  ⟨[], cs, .inl rfl, rfl, nonempty, digits, rfl⟩

theorem IsNumeral.eq_of_digits {cs : List Char} {number : Nat} (numeral : IsNumeral cs number)
    (digits : ∀ c ∈ cs, c.isDigit = true) : number = Nat.ofDigitChars 10 cs 0 := by
  obtain ⟨sign, unsigned, rfl | rfl, rfl, -, -, value⟩ := numeral
  · exact value.symm
  · exact absurd rfl (ne_plus_of_digits digits unsigned)

/-- The text of the default key writes no number. -/
theorem not_isNumeral_default (number : Nat) : ¬ IsNumeral "default".toList number := by
  rintro ⟨sign, digits, rfl | rfl, same, -, all, -⟩
  · have letter : 'd' ∈ digits := by
      rw [← List.nil_append digits, ← same]
      decide
    exact absurd (all 'd' letter) (by decide)
  · cases same

/-- A code is read from the text that writes it, with or without a sign. -/
theorem code?_eq_some_iff {cs : List Char} {number : UInt16} :
    code? cs = some number ↔ IsNumeral cs number.toNat := by
  constructor
  · intro read
    rw [code?.eq_def] at read
    split at read
    · exact ⟨['+'], _, .inr rfl, rfl, decimal?_eq_some_iff.1 read⟩
    · exact ⟨[], cs, .inl rfl, rfl, decimal?_eq_some_iff.1 read⟩
  · rintro ⟨sign, digits, rfl | rfl, rfl, parts⟩
    · rw [code?]
      · exact decimal?_eq_some_iff.2 parts
      · exact ne_plus_of_digits parts.2.1
    · exact decimal?_eq_some_iff.2 parts

/-- The codes of statuses are those with three digits below 600. -/
theorem isStatus_iff {code : Nat} : isStatus code = true ↔ 100 ≤ code ∧ code ≤ 599 := by
  rw [isStatus, Bool.and_eq_true, decide_eq_true_eq, decide_eq_true_eq]

/-- The default key is read from one text only. -/
theorem parse?_eq_default_iff {text : String} : parse? text = some .default ↔ text = "default" := by
  rw [parse?]
  constructor
  · intro read
    split at read
    · assumption
    · split at read
      · split at read <;> cases read
      · cases read
  · intro named
    rw [if_pos named]

/-- A status is read from the texts that write its code. -/
theorem parse?_eq_status_iff {text : String} {code : Nat} :
    parse? text = some (.status code) ↔ IsNumeral text.toList code ∧ isStatus code = true := by
  constructor
  · intro read
    rw [parse?] at read
    split at read
    · cases read
    · split at read
      · rename_i number found
        split at read
        · rename_i status
          cases read
          exact ⟨code?_eq_some_iff.1 found, status⟩
        · cases read
      · cases read
  · rintro ⟨numeral, status⟩
    have named : text ≠ "default" := by
      rintro rfl
      exact not_isNumeral_default code numeral
    have small : code < UInt16.size := Nat.lt_of_le_of_lt (isStatus_iff.1 status).2 (by decide)
    have value := UInt16.toNat_ofNat_of_lt' small
    have found : code? text.toList = some (.ofNat code) := code?_eq_some_iff.2 (value.symm ▸ numeral)
    rw [parse?, if_neg named, found]
    simp only [value, status, if_true]

/-- A key that was read is valid. -/
theorem valid_of_parse? {text : String} {key : ResponseKey} (read : parse? text = some key) :
    key.Valid := by
  cases key with
  | default => trivial
  | status code => exact (parse?_eq_status_iff.1 read).2

theorem toList_display_status (code : Nat) :
    (display (.status code)).toList = Nat.toDigits 10 code := by
  rw [display, Nat.toString_eq_ofList_toDigits, String.toList_ofList]

/-- A valid key is read back from its text. -/
theorem parse?_display {key : ResponseKey} (valid : key.Valid) : parse? key.display = some key := by
  cases key with
  | default => rfl
  | status code =>
      have digits : ∀ c ∈ Nat.toDigits 10 code, c.isDigit = true :=
        fun c member => Nat.isDigit_of_mem_toDigits (by decide) (by decide) member
      have numeral := isNumeral_of_digits Nat.toDigits_ne_nil digits
      rw [Nat.ofDigitChars_ten_toDigits, ← toList_display_status] at numeral
      exact parse?_eq_status_iff.2 ⟨numeral, valid⟩

/-! ### Three digits

A directive holds exactly three digits, and a status has that many. So the two go together without a
sign and without leading zeros. -/

/-- A digit is that of a number below ten. -/
theorem digitChar_of_isDigit {c : Char} (digit : c.isDigit = true) :
    ∃ d < 10, c = Nat.digitChar d := by
  have bounds : 48 ≤ c.toNat ∧ c.toNat ≤ 57 := by
    simp only [Char.isDigit, Bool.and_eq_true, decide_eq_true_eq, UInt32.le_iff_toNat_le] at digit
    exact digit
  refine ⟨c.toNat - 48, by omega, Char.toNat_inj.1 ?_⟩
  rw [Nat.toNat_digitChar_of_lt_ten (by omega)]
  omega

/-- The digits of a number of three digits. -/
theorem toDigits_hundreds {x y z : Nat} (positive : 0 < x) (hx : x < 10) (hy : y < 10)
    (hz : z < 10) :
    Nat.toDigits 10 (100 * x + 10 * y + z) = [x.digitChar, y.digitChar, z.digitChar] := by
  have tens : (100 * x + 10 * y + z) / 10 = 10 * x + y := by omega
  have ones : (100 * x + 10 * y + z) % 10 = z := by omega
  have first : (10 * x + y) / 10 = x := by omega
  have second : (10 * x + y) % 10 = y := by omega
  rw [Nat.toDigits_of_base_le (by decide) (by omega), tens, ones,
    Nat.toDigits_of_base_le (by decide) (by omega), first, second, Nat.toDigits_of_lt_base hx]
  rfl

/-- The digits of a status are those for hundreds, tens and ones. -/
theorem toList_display_of_status {code : Nat} (status : isStatus code = true) :
    (display (.status code)).toList =
      [(code / 100).digitChar, (code / 10 % 10).digitChar, (code % 10).digitChar] := by
  rw [isStatus_iff] at status
  rw [toList_display_status, ← toDigits_hundreds (by omega) (by omega) (by omega) (by omega)]
  congr 1
  omega

/-- The text of a status has three digits. -/
theorem exists_digits_of_status {code : Nat} (status : isStatus code = true) :
    ∃ a b c : Char, a.isDigit = true ∧ b.isDigit = true ∧ c.isDigit = true ∧
      (display (.status code)).toList = [a, b, c] := by
  have bounds := isStatus_iff.1 status
  have digit (d : Nat) (small : d < 10) : d.digitChar.isDigit = true := by
    rw [Nat.isDigit_digitChar]
    exact decide_eq_true small
  exact ⟨_, _, _, digit _ (by omega), digit _ (by omega), digit _ (by omega),
    toList_display_of_status status⟩

/-- Three digits are read as a key if they are the text of a status. -/
theorem parse?_digits_iff {a b c : Char} (ha : a.isDigit = true) (hb : b.isDigit = true)
    (hc : c.isDigit = true) {key : ResponseKey} :
    parse? (String.ofList [a, b, c]) = some key ↔
      key.Valid ∧ key.display.toList = [a, b, c] := by
  constructor
  · intro read
    refine ⟨valid_of_parse? read, ?_⟩
    cases key with
    | default =>
        have named := parse?_eq_default_iff.1 read
        rw [← String.toList_inj, String.toList_ofList] at named
        cases named
    | status code =>
        obtain ⟨numeral, status⟩ := parse?_eq_status_iff.1 read
        rw [String.toList_ofList] at numeral
        have number := numeral.eq_of_digits (by simp [ha, hb, hc])
        obtain ⟨x, hx, rfl⟩ := digitChar_of_isDigit ha
        obtain ⟨y, hy, rfl⟩ := digitChar_of_isDigit hb
        obtain ⟨z, hz, rfl⟩ := digitChar_of_isDigit hc
        have value : code = 100 * x + 10 * y + z := by
          rw [number, Nat.ofDigitChars_cons_digitChar_of_lt_ten hx,
            Nat.ofDigitChars_cons_digitChar_of_lt_ten hy,
            Nat.ofDigitChars_cons_digitChar_of_lt_ten hz, Nat.ofDigitChars_nil]
          omega
        have bounds := isStatus_iff.1 status
        rw [toList_display_status, value, toDigits_hundreds (by omega) hx hy hz]
  · rintro ⟨valid, written⟩
    rw [← written, String.ofList_toList, parse?_display valid]

/-! ### Order

Texts of one length are ordered as their numbers, digit by digit. -/

/-- Digits are ordered as their numbers are. -/
theorem digitChar_lt_iff {d e : Nat} (hd : d < 10) (he : e < 10) :
    d.digitChar < e.digitChar ↔ d < e := by
  have codes : d.digitChar < e.digitChar ↔ d.digitChar.toNat < e.digitChar.toNat := Iff.rfl
  rw [codes, Nat.toNat_digitChar_of_lt_ten hd, Nat.toNat_digitChar_of_lt_ten he]
  omega

/-- Digits are equal if their numbers are. -/
theorem digitChar_eq_iff {d e : Nat} (hd : d < 10) (he : e < 10) :
    d.digitChar = e.digitChar ↔ d = e := by
  rw [← Char.toNat_inj, Nat.toNat_digitChar_of_lt_ten hd, Nat.toNat_digitChar_of_lt_ten he]
  omega

/-- Statuses are ordered as their texts are, since these are of one length. -/
theorem display_lt_display_iff {code other : Nat} (status : isStatus code = true)
    (otherStatus : isStatus other = true) :
    display (.status code) < display (.status other) ↔ code < other := by
  have bounds := isStatus_iff.1 status
  have otherBounds := isStatus_iff.1 otherStatus
  rw [String.lt_iff, toList_display_of_status status,
    toList_display_of_status otherStatus, List.cons_lt_cons_iff, List.cons_lt_cons_iff,
    List.cons_lt_cons_iff, digitChar_lt_iff (by omega) (by omega),
    digitChar_lt_iff (by omega) (by omega), digitChar_lt_iff (by omega) (by omega),
    digitChar_eq_iff (by omega) (by omega), digitChar_eq_iff (by omega) (by omega)]
  simp only [List.not_lt_nil, and_false, or_false]
  omega

/-- The order of valid keys: the default one, and then the statuses by their texts. -/
theorem lt_iff_display_lt {key other : ResponseKey} (valid : key.Valid) (otherValid : other.Valid) :
    key < other ↔
      key = .default ∧ other ≠ .default ∨
        key ≠ .default ∧ other ≠ .default ∧ key.display < other.display := by
  have ranks : key < other ↔ key.rank < other.rank := Iff.rfl
  rw [ranks]
  cases key with
  | default => cases other <;> simp [rank]
  | status code =>
      cases other with
      | default => simp [rank]
      | status otherCode =>
          rw [display_lt_display_iff valid otherValid]
          simp [rank]

/-- Keys and their texts. A text is read as the default key or as the status that it writes, with or
    without a sign and leading zeros; no other text is read, however large the number is that it
    writes. A key that was read is read back from its own text. So these texts are distinct, and after
    the default key they are in the order of the keys. -/
theorem keys_and_texts :
    (∀ text, parse? text = some .default ↔ text = "default") ∧
    (∀ text code, parse? text = some (.status code) ↔
      IsNumeral text.toList code ∧ 100 ≤ code ∧ code ≤ 599) ∧
    (∀ text, parse? text = none ↔
      text ≠ "default" ∧ ∀ number, IsNumeral text.toList number → number < 100 ∨ 599 < number) ∧
    (∀ text key, parse? text = some key → parse? key.display = some key) ∧
    ∀ text key otherText other, parse? text = some key → parse? otherText = some other →
      (key.display = other.display → key = other) ∧
      (key < other ↔
        key = .default ∧ other ≠ .default ∨
          key ≠ .default ∧ other ≠ .default ∧ key.display < other.display) := by
  have status (text : String) (code : Nat) : parse? text = some (.status code) ↔
      IsNumeral text.toList code ∧ 100 ≤ code ∧ code ≤ 599 := by
    rw [parse?_eq_status_iff, isStatus_iff]
  refine ⟨fun text => parse?_eq_default_iff, status, fun text => ?_,
    fun text key read => parse?_display (valid_of_parse? read), ?_⟩
  · rw [Option.eq_none_iff_forall_ne_some]
    constructor
    · intro unread
      refine ⟨fun named => unread .default (parse?_eq_default_iff.2 named), ?_⟩
      intro number numeral
      by_contra inside
      exact unread (.status number) ((status text number).2 ⟨numeral, by omega⟩)
    · rintro ⟨named, outside⟩ key read
      cases key with
      | default => exact named (parse?_eq_default_iff.1 read)
      | status code =>
          obtain ⟨numeral, inside⟩ := (status text code).1 read
          have := outside code numeral
          omega
  · intro text key otherText other read otherRead
    have valid := valid_of_parse? read
    have otherValid := valid_of_parse? otherRead
    refine ⟨fun same => ?_, lt_iff_display_lt valid otherValid⟩
    have back := parse?_display valid
    rw [same, parse?_display otherValid] at back
    exact (Option.some.inj back).symm

/-- A number beyond 16 bits is no status, though its last bits are those of one. -/
example : parse? "65736" = none ∧ 65736 % UInt16.size = 200 ∧ parse? "+0200" = some (.status 200) := by
  decide

end SwaggerDocs.ResponseKey
