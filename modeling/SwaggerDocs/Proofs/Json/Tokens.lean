/-
Module: SwaggerDocs.Proofs.Json.Tokens
Purpose: Strings and integers of JSON texts. A written string is read back character by character; the
  digits of an integer of 64 bits are read back as that integer, up to a character that ends them.
Main exports: Json.scanString?_quote, Json.EndsNumeral, Json.Numeral.scan?_toDigits,
  Json.Numeral.exists_scan?
-/
import Mathlib.Data.List.Basic
import Mathlib.Tactic.SplitIfs
import SwaggerDocs.Json.Printer
import SwaggerDocs.Proofs.Json.Values

namespace SwaggerDocs.Json

open Text (hexDigit?)

/-! ### Strings

A string is written character by character, each as itself or as an escape. Reading makes units of these
and then joins the units; no unit of a written string is half of a pair. -/

/-- A unit of a written string stands for a character: it is the character, or the code of a control
    character. -/
inductive StringUnit.StandsFor : StringUnit → Char → Prop where
  | char (c : Char) : StandsFor (.char c) c
  | code {c : Char} (control : c.toNat < 0x20) : StandsFor (.code c.toNat) c

/-- A unit that stands for a character is followed by the text of the other units. The code of a control
    character is no part of a pair. -/
theorem unitsText?_cons {unit : StringUnit} {c : Char} (stands : unit.StandsFor c)
    (units : List StringUnit) : unitsText? (unit :: units) = (unitsText? units).map (c :: ·) := by
  cases stands with
  | char c => rw [unitsText?]
  | code control =>
      have noLead : ¬(0xD800 ≤ c.toNat ∧ c.toNat < 0xDC00) := by omega
      have noTrail : ¬(0xDC00 ≤ c.toNat ∧ c.toNat < 0xE000) := by omega
      have noSurrogate : ¬(0xD800 ≤ c.toNat ∧ c.toNat < 0xE000) := by omega
      cases units with
      | nil => simp [unitsText?, noSurrogate]
      | cons next rest =>
          cases next with
          | char d => simp [unitsText?, noSurrogate]
          | code low => rw [unitsText?, if_neg noLead, if_neg noTrail, Char.ofNat_toNat]

theorem hexDigit?_hexChar {n : Nat} (small : n < 16) : hexDigit? (hexChar n) = some n := by
  have all : ∀ n < 16, hexDigit? (hexChar n) = some n := by decide
  exact all n small

/-- What reading a string gives if it begins with one more unit. -/
def withUnit (unit : StringUnit) (read : Option (List StringUnit × List Char)) :
    Option (List StringUnit × List Char) :=
  read.map fun read => (unit :: read.1, read.2)

theorem scanUnits?_simple {letter c : Char} (escape : simpleEscape? letter = some c)
    (rest : List Char) :
    scanUnits? ('\\' :: letter :: rest) = withUnit (.char c) (scanUnits? rest) := by
  rw [scanUnits?, escape]
  · cases scanUnits? rest <;> rfl
  · rintro a b c d rest rfl
    cases escape

/-- An escape by the code of a control character is one unit. -/
theorem scanUnits?_control {c : Char} (control : c.toNat < 0x20) (rest : List Char) :
    scanUnits?
        ('\\' :: 'u' :: '0' :: '0' :: hexChar (c.toNat / 16) :: hexChar (c.toNat % 16) :: rest) =
      withUnit (.code c.toNat) (scanUnits? rest) := by
  have zero : hexDigit? '0' = some 0 := by decide
  have high := hexDigit?_hexChar (n := c.toNat / 16) (by omega)
  have low := hexDigit?_hexChar (n := c.toNat % 16) (by omega)
  have unit : hexUnit? ['0', '0', hexChar (c.toNat / 16), hexChar (c.toNat % 16)] =
      some (c.toNat, []) := by
    have value : c.toNat / 16 * 16 + c.toNat % 16 = c.toNat := by omega
    simp [hexUnit?, zero, high, low, value]
  rw [scanUnits?, unit]
  cases scanUnits? rest <;> rfl

theorem scanUnits?_char {c : Char} (noQuote : c ≠ '"') (noEscape : c ≠ '\\')
    (noControl : ¬c.toNat < 0x20) (rest : List Char) :
    scanUnits? (c :: rest) = withUnit (.char c) (scanUnits? rest) := by
  rw [scanUnits?, if_neg (not_or.2 ⟨noControl, noEscape⟩)]
  · cases scanUnits? rest <;> rfl
  · exact noQuote
  · rintro a b c d rest rfl
    exact absurd rfl noEscape
  · rintro c rest rfl
    exact absurd rfl noEscape

/-- A written character is read as one unit that stands for it. -/
theorem scanUnits?_escapeChar (c : Char) :
    ∃ unit : StringUnit, unit.StandsFor c ∧ ∀ rest,
      scanUnits? (escapeChar c ++ rest) = withUnit unit (scanUnits? rest) := by
  have simple {letter c : Char} (escape : simpleEscape? letter = some c) :
      ∃ unit : StringUnit, unit.StandsFor c ∧ ∀ rest,
        scanUnits? (['\\', letter] ++ rest) = withUnit unit (scanUnits? rest) :=
    ⟨.char c, .char c, scanUnits?_simple escape⟩
  rw [escapeChar]
  split_ifs with quote slash backspace feed line carriage tab control
  · subst quote
    exact simple rfl
  · subst slash
    exact simple rfl
  · subst backspace
    exact simple rfl
  · subst feed
    exact simple rfl
  · subst line
    exact simple rfl
  · subst carriage
    exact simple rfl
  · subst tab
    exact simple rfl
  · exact ⟨.code c.toNat, .code control, scanUnits?_control control⟩
  · exact ⟨.char c, .char c, scanUnits?_char quote slash control⟩

/-- The units of a written string stand for its characters. -/
theorem scanUnits?_quoted (cs rest : List Char) :
    ∃ units, scanUnits? (cs.flatMap escapeChar ++ '"' :: rest) = some (units, rest) ∧
      unitsText? units = some cs := by
  induction cs with
  | nil => exact ⟨[], rfl, rfl⟩
  | cons c cs ih =>
      obtain ⟨unit, stands, first⟩ := scanUnits?_escapeChar c
      obtain ⟨units, later, text⟩ := ih
      refine ⟨unit :: units, ?_, ?_⟩
      · rw [List.flatMap_cons, List.append_assoc, first, later]
        rfl
      · rw [unitsText?_cons stands, text]
        rfl

/-- A quoted string is read back. -/
theorem scanString?_quote (s : String) :
    ∃ body, (quote s).toList = '"' :: body ∧
      ∀ rest, scanString? (body ++ rest) = some (some s, rest) := by
  refine ⟨s.toList.flatMap escapeChar ++ ['"'], String.toList_ofList, fun rest => ?_⟩
  obtain ⟨units, read, text⟩ := scanUnits?_quoted s.toList rest
  rw [List.append_assoc, List.singleton_append, scanString?, read]
  simp only [Option.map_some, text, String.ofList_toList]

/-! ### Integers

A numeral ends where no character can continue it. The value of its digits is computed with a bound at
each digit, which numbers of 64 bits never pass. -/

/-- What follows cannot continue a numeral: it is the end of the text, the comma after an item, or the
    end of a line. -/
def EndsNumeral (rest : List Char) : Prop := ∀ c ∈ rest.head?, c = ',' ∨ c = '\n'

theorem EndsNumeral.nil : EndsNumeral [] := by
  intro c absent
  cases absent

theorem EndsNumeral.cons {c : Char} (ends : c = ',' ∨ c = '\n') (rest : List Char) :
    EndsNumeral (c :: rest) := by
  rintro _ ⟨⟩
  exact ends

/-- A character that ends a numeral is no digit, and starts neither a fraction nor an exponent. -/
theorem EndsNumeral.head_not_mem {rest : List Char} (ends : EndsNumeral rest) {c : Char}
    {more : List Char} (first : rest = c :: more) :
    c.isDigit = false ∧ c ≠ '.' ∧ c ≠ 'e' ∧ c ≠ 'E' := by
  subst first
  rcases ends c rfl with rfl | rfl <;> decide

/-- The value of a digit character. -/
def digitOf (c : Char) : Nat := c.toNat - '0'.toNat

theorem digit?_of_isDigit {c : Char} (digit : c.isDigit = true) : digit? c = some (digitOf c) := by
  rw [digit?, if_pos digit, digitOf]

/-- Digits are read up to the end of the numeral. -/
theorem scanDigits_append {cs rest : List Char} (digits : ∀ c ∈ cs, c.isDigit = true)
    (ends : EndsNumeral rest) : scanDigits (cs ++ rest) = (cs.map digitOf, rest) := by
  induction cs with
  | nil =>
      cases rest with
      | nil => rfl
      | cons c more =>
          have other := (ends.head_not_mem rfl).1
          rw [List.nil_append, scanDigits, digit?, if_neg (by simp [other])]
          rfl
  | cons c cs ih =>
      have first := digits c List.mem_cons_self
      have later := ih fun d member => digits d (List.mem_cons_of_mem _ member)
      rw [List.cons_append, scanDigits, digit?_of_isDigit first]
      simp only [later, List.map_cons]

/-- Digits are added up as the library does. -/
theorem foldl_digitOf (cs : List Char) (start : Nat) :
    (cs.map digitOf).foldl (fun n d => n * 10 + d) start = Nat.ofDigitChars 10 cs start := by
  induction cs generalizing start with
  | nil => rfl
  | cons c cs ih =>
      rw [List.map_cons, List.foldl_cons, ih, Nat.ofDigitChars_cons, Nat.mul_comm start, digitOf]

/-- Digits of a number of 64 bits are all collected. -/
theorem collect_of_fits {digits : List Nat} {word : Nat} (taken : Nat)
    (fits : digits.foldl (fun n d => n * 10 + d) word < Nat.pow 2 64) :
    Numeral.collect word taken digits =
      (digits.foldl (fun n d => n * 10 + d) word, taken + digits.length, 0) := by
  have grows (digits : List Nat) (word : Nat) :
      word ≤ digits.foldl (fun n d => n * 10 + d) word := by
    induction digits generalizing word with
    | nil => exact Nat.le_refl word
    | cons d rest ih => exact Nat.le_trans (by omega) (ih (word * 10 + d))
  induction digits generalizing word taken with
  | nil => rfl
  | cons d rest ih =>
      rw [List.foldl_cons] at fits
      rw [Numeral.collect, if_pos (Nat.lt_of_le_of_lt (grows rest _) fits), ih _ fits,
        List.foldl_cons, List.length_cons]
      congr 2
      omega

/-- The digits of a positive number do not start with zero. -/
theorem toDigits_ne_zero_cons {n : Nat} (positive : 0 < n) (rest : List Char) :
    Nat.toDigits 10 n ≠ '0' :: rest := by
  induction n using Nat.strongRecOn generalizing rest with
  | ind n ih =>
      rw [Nat.toDigits_eq_if (by decide)]
      split
      · rename_i small
        intro same
        have zero : ∀ d < 10, Nat.digitChar d = '0' → d = 0 := by decide
        have := zero n small (List.cons.inj same).1
        omega
      · rename_i large
        cases leading : Nat.toDigits 10 (n / 10) with
        | nil => exact absurd leading Nat.toDigits_ne_nil
        | cons c cs =>
            intro same
            obtain ⟨rfl, _⟩ := List.cons.inj same
            exact ih (n / 10) (by omega) (by omega) cs leading

/-- The digits of a number are digit characters. -/
theorem isDigit_of_mem_toDigits {n : Nat} : ∀ c ∈ Nat.toDigits 10 n, c.isDigit = true :=
  fun _ member => Nat.isDigit_of_mem_toDigits (by decide) (by decide) member

/-- Only the digit zero has the value zero. -/
theorem eq_zero_of_digitOf {c : Char} (digit : c.isDigit = true) (zero : digitOf c = 0) :
    c = '0' := by
  simp only [Char.isDigit, Bool.and_eq_true, decide_eq_true_eq, UInt32.le_iff_toNat_le] at digit
  have lower : '0'.toNat ≤ c.toNat := digit.1
  apply Char.toNat_inj.1
  rw [digitOf] at zero
  omega

namespace Numeral

/-- The digits of a number are a whole part. -/
theorem scanWhole?_toDigits (n : Nat) {rest : List Char} (ends : EndsNumeral rest) :
    scanWhole? (Nat.toDigits 10 n ++ rest) = some ((Nat.toDigits 10 n).map digitOf, rest) := by
  rw [scanWhole?, scanDigits_append isDigit_of_mem_toDigits ends]
  split
  · rename_i empty
    have none : Nat.toDigits 10 n = [] := List.map_eq_nil_iff.1 (congrArg Prod.fst empty)
    exact absurd none Nat.toDigits_ne_nil
  · rename_i leading
    exfalso
    have leading := congrArg Prod.fst leading
    obtain ⟨c, cs, written, zero, more⟩ := List.map_eq_cons_iff.1 leading
    have first : c = '0' :=
      eq_zero_of_digitOf (isDigit_of_mem_toDigits c (written ▸ List.mem_cons_self)) zero
    rcases Nat.eq_zero_or_pos n with rfl | positive
    · rw [Nat.toDigits_zero] at written
      obtain ⟨_, rfl⟩ := List.cons.inj written
      cases more
    · exact toDigits_ne_zero_cons positive cs (first ▸ written)
  · rename_i same
    rw [same]

/-- There is no fraction after the end of a numeral. -/
theorem scanFraction?_of_ends {rest : List Char} (ends : EndsNumeral rest) :
    scanFraction? rest = some (none, rest) := by
  rw [scanFraction?]
  rintro more rfl
  exact (ends.head_not_mem rfl).2.1 rfl

/-- There is no exponent after the end of a numeral. -/
theorem scanExponent?_of_ends {rest : List Char} (ends : EndsNumeral rest) :
    scanExponent? rest = some (none, rest) := by
  cases rest with
  | nil => rfl
  | cons c more =>
      unfold scanExponent?
      exact if_neg (not_or.2 (ends.head_not_mem rfl).2.2)

/-- The digits of a number are a numeral, with or without a sign. -/
theorem scan?_toDigits (n : Nat) {rest : List Char} (ends : EndsNumeral rest) :
    scan? (Nat.toDigits 10 n ++ rest) =
        some (⟨false, (Nat.toDigits 10 n).map digitOf, none, none⟩, rest) ∧
      scan? ('-' :: Nat.toDigits 10 n ++ rest) =
        some (⟨true, (Nat.toDigits 10 n).map digitOf, none, none⟩, rest) := by
  have whole := scanWhole?_toDigits n ends
  have fraction := scanFraction?_of_ends ends
  have exponent := scanExponent?_of_ends ends
  constructor
  · cases written : Nat.toDigits 10 n with
    | nil => exact absurd written Nat.toDigits_ne_nil
    | cons c cs =>
        have unsigned : c ≠ '-' := by
          rintro rfl
          have digit := isDigit_of_mem_toDigits (n := n) '-' (written ▸ List.mem_cons_self)
          exact absurd digit (by decide)
        rw [written] at whole
        rw [List.cons_append] at whole ⊢
        rw [scan?]
        · simp only [whole, fraction, exponent]
        · intro more same
          exact unsigned (List.cons.inj same).1
  · simp only [scan?, List.cons_append, whole, fraction, exponent]

/-- A numeral of the digits of a number that fits has the value of the number. -/
theorem value?_toDigits (negative : Bool) {n : Nat} (fits : n < Nat.pow 2 64) :
    value? ⟨negative, (Nat.toDigits 10 n).map digitOf, none, none⟩ =
      some (wordValue negative n) := by
  have value : ((Nat.toDigits 10 n).map digitOf).foldl (fun n d => n * 10 + d) 0 = n := by
    rw [foldl_digitOf, Nat.ofDigitChars_ten_toDigits]
  have small : ((Nat.toDigits 10 n).map digitOf).foldl (fun n d => n * 10 + d) 0 < Nat.pow 2 64 := by
    rw [value]
    exact fits
  have collected := collect_of_fits 0 small
  rw [value] at collected
  simp only [value?, collected]

end Numeral

/-- The text of an integer: the digits of its absolute value, after a sign if it is negative. -/
theorem toList_toString_int (n : Int) :
    (toString n).toList =
      if n < 0 then '-' :: Nat.toDigits 10 n.natAbs else Nat.toDigits 10 n.natAbs := by
  cases n with
  | ofNat m =>
      rw [if_neg (by simp)]
      have text : toString (Int.ofNat m) = toString m := rfl
      rw [text, Nat.toString_eq_ofList_toDigits, String.toList_ofList]
      rfl
  | negSucc m =>
      rw [if_pos (Int.negSucc_lt_zero m)]
      have text : toString (Int.negSucc m) = "-" ++ toString (m + 1) := rfl
      have digits : (toString (m + 1)).toList = Nat.toDigits 10 (m + 1) := by
        rw [Nat.toString_eq_ofList_toDigits, String.toList_ofList]
      rw [text, String.toList_append, digits]
      rfl

/-- An integer of 64 bits is read back. -/
theorem Numeral.exists_scan? {n : Int} (word : inIntegerRange n = true) {rest : List Char}
    (ends : EndsNumeral rest) :
    ∃ numeral, scan? ((toString n).toList ++ rest) = some (numeral, rest) ∧
      numeral.value? = some (.integer n) := by
  have upper : Nat.pow 2 64 = 18446744073709551616 := rfl
  have middle : Nat.pow 2 63 = 9223372036854775808 := rfl
  rw [inIntegerRange, Bool.and_eq_true, decide_eq_true_eq, decide_eq_true_eq, upper, middle] at word
  have texts := scan?_toDigits n.natAbs ends
  have fits : n.natAbs < Nat.pow 2 64 := by omega
  rw [toList_toString_int]
  split
  · rename_i negative
    refine ⟨_, texts.2, ?_⟩
    have small : ¬(n.natAbs = 0 ∨ Nat.pow 2 63 < n.natAbs) := by omega
    have value : -(n.natAbs : Int) = n := by omega
    rw [value?_toDigits true fits, wordValue, if_pos rfl, if_neg small, value]
  · rename_i natural
    refine ⟨_, texts.1, ?_⟩
    have value : (n.natAbs : Int) = n := by omega
    rw [value?_toDigits false fits, wordValue, if_neg Bool.false_ne_true, value]

end SwaggerDocs.Json
