/-
Module: SwaggerDocs.Text.Utf8
Purpose: Reading of bytes as UTF-8 text: exact reading, which refuses ill-formed bytes, and lenient
  reading, which writes one replacement character for each maximal ill-formed beginning of a
  sequence.
Main exports: Text.decodeExact?, Text.decodeLenient, Text.decodeExact?_eq_some_iff
-/

namespace SwaggerDocs.Text

/-- The text that the bytes encode, if they are well-formed UTF-8. -/
def decodeExact? (bytes : ByteArray) : Option String := String.fromUTF8? bytes

/-- The bytes that are read as a text are its UTF-8 form. -/
theorem decodeExact?_eq_some_iff {bytes : ByteArray} {text : String} :
    decodeExact? bytes = some text ↔ text.toUTF8 = bytes := by
  rw [decodeExact?, String.fromUTF8?]
  constructor
  · intro read
    split at read
    · obtain rfl := Option.some.inj read
      rfl
    · cases read
  · rintro rfl
    exact dif_pos text.isValidUTF8

/-- The character that stands for ill-formed bytes. -/
def replacement : Char := '\uFFFD'

/-- What a lead byte announces: the number of continuation bytes, its payload, and the range that the
    first continuation byte must lie in. Overlong forms, surrogates and values above the last code
    point are excluded by that range. -/
structure Lead where
  following : Nat
  payload : Nat
  low : UInt8
  high : UInt8
deriving Repr, DecidableEq

/-- The announcement of a lead byte, if it is one. -/
def Lead.ofByte? (b : UInt8) : Option Lead :=
  if b < 0x80 then some ⟨0, b.toNat, 0x80, 0xBF⟩
  else if 0xC2 ≤ b && b ≤ 0xDF then some ⟨1, b.toNat - 0xC0, 0x80, 0xBF⟩
  else if b = 0xE0 then some ⟨2, 0, 0xA0, 0xBF⟩
  else if b = 0xED then some ⟨2, 0xD, 0x80, 0x9F⟩
  else if 0xE1 ≤ b && b ≤ 0xEF then some ⟨2, b.toNat - 0xE0, 0x80, 0xBF⟩
  else if b = 0xF0 then some ⟨3, 0, 0x90, 0xBF⟩
  else if b = 0xF4 then some ⟨3, 4, 0x80, 0x8F⟩
  else if 0xF1 ≤ b && b ≤ 0xF3 then some ⟨3, b.toNat - 0xF0, 0x80, 0xBF⟩
  else none

/-- Reads the continuation bytes of a sequence. The first result is the character, or none where the
    sequence breaks off; the second is what follows the bytes that belong to it. -/
def continueSequence (low high : UInt8) : Nat → Nat → List UInt8 → Option Char × List UInt8
  | 0, value, rest => (some (Char.ofNat value), rest)
  | _ + 1, _, [] => (none, [])
  | n + 1, value, b :: rest =>
      if low ≤ b && b ≤ high then
        continueSequence 0x80 0xBF n (value * 64 + (b.toNat - 0x80)) rest
      else (none, b :: rest)

theorem length_continueSequence_le (low high : UInt8) (n value : Nat) (bytes : List UInt8) :
    (continueSequence low high n value bytes).2.length ≤ bytes.length := by
  induction n generalizing low high value bytes with
  | zero => simp [continueSequence]
  | succ n ih =>
    cases bytes with
    | nil => simp [continueSequence]
    | cons b rest =>
      simp only [continueSequence]
      split
      · exact Nat.le_succ_of_le (ih _ _ _ _)
      · exact Nat.le_refl _

/-- The characters of the bytes; each byte that starts no sequence, and each sequence that breaks
    off, gives one replacement character. -/
def decodeLenientBytes : List UInt8 → List Char
  | [] => []
  | b :: rest =>
      match Lead.ofByte? b with
      | none => replacement :: decodeLenientBytes rest
      | some lead =>
          let read := continueSequence lead.low lead.high lead.following lead.payload rest
          read.1.getD replacement :: decodeLenientBytes read.2
termination_by bytes => bytes.length
decreasing_by
  · simp
  · have := length_continueSequence_le lead.low lead.high lead.following lead.payload rest
    simp only [List.length_cons]
    omega

/-- The text of the bytes with ill-formed parts replaced. -/
def decodeLenient (bytes : ByteArray) : String :=
  match decodeExact? bytes with
  | some text => text
  | none => String.ofList (decodeLenientBytes bytes.toList)

/-- Lenient reading replaces nothing in a text. -/
theorem decodeLenient_toUTF8 (text : String) : decodeLenient text.toUTF8 = text := by
  rw [decodeLenient, decodeExact?_eq_some_iff.2 rfl]

end SwaggerDocs.Text
