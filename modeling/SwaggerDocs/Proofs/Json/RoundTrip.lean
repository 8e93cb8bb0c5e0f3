/-
Module: SwaggerDocs.Proofs.Json.RoundTrip
Purpose: Written values are read back. The reader leaves what follows a value, so the items and members
  of a written value are read one after another; the length of a text is more fuel than it takes.
Main exports: Json.Reading.ReadAs, Json.Reading.readAs_renderAt, Json.Reading.ofText_render,
  Json.parse?_render
-/
import SwaggerDocs.Proofs.Json.Tokens

namespace SwaggerDocs.Json

namespace Reading

/-- A text is read as a reading, up to an end that ends numerals. It starts with the value itself,
    and not with the end of an array. -/
structure ReadAs (text : List Char) (reading : Reading) : Prop where
  start : ∃ c more, text = c :: more ∧ isSpace c = false ∧ c ≠ ']'
  scanned {fuel : Nat} {rest : List Char} (enough : text.length ≤ fuel + 1)
    (ends : EndsNumeral rest) : scan (fuel + 1) (text ++ rest) = (reading, rest)

/-- A text that is read as a reading is not empty. -/
theorem ReadAs.length_pos {text : List Char} {reading : Reading} (readAs : ReadAs text reading) :
    0 < text.length := by
  obtain ⟨c, more, rfl, _, _⟩ := readAs.start
  exact Nat.zero_lt_succ more.length

/-! ### Blank characters

The printer puts line ends and indentation between parts. The reader skips these before each value and
each punctuation mark. -/

theorem skipSpaces_blank {blank : List Char} (spaces : ∀ c ∈ blank, isSpace c = true)
    (cs : List Char) : skipSpaces (blank ++ cs) = skipSpaces cs :=
  List.dropWhile_append_of_pos spaces

/-- Nothing is skipped before a character that is not blank. -/
theorem skipSpaces_of_start {c : Char} (solid : isSpace c = false) (more : List Char) :
    skipSpaces (c :: more) = c :: more := by
  rw [skipSpaces, List.dropWhile_cons_of_neg (by simp [solid])]

/-- A line end is followed by two blanks for each level. -/
theorem toList_newline (level : Nat) :
    (newline level).toList = '\n' :: List.replicate (2 * level) ' ' := by
  simp [newline]

/-- The end of a line and the blanks after it are skipped. -/
theorem isSpace_of_mem_newline {level : Nat} :
    ∀ c ∈ (newline level).toList, isSpace c = true := by
  intro c member
  rw [toList_newline] at member
  rcases List.mem_cons.1 member with rfl | blank
  · rfl
  · rw [(List.mem_replicate.1 blank).2]
    rfl

/-- Blank characters before a value make no difference. -/
theorem scan_blank {blank : List Char} (spaces : ∀ c ∈ blank, isSpace c = true) (fuel : Nat)
    (cs : List Char) : scan (fuel + 1) (blank ++ cs) = scan (fuel + 1) cs := by
  rw [scan, scan, skipSpaces_blank spaces]

/-! ### Single values

Values without parts, up to the text that follows them. Only for numbers it matters what this is. -/

variable (level : Nat)

theorem readAs_null : ReadAs (renderAt level .null).toList .null := by
  rw [renderAt]
  refine ⟨⟨'n', "ull".toList, rfl, rfl, by decide⟩, fun {fuel rest} _ _ => ?_⟩
  rw [scan]
  rfl

theorem readAs_bool (b : Bool) : ReadAs (renderAt level (.bool b)).toList (.bool b) := by
  cases b with
  | true =>
      rw [renderAt]
      refine ⟨⟨'t', "rue".toList, rfl, rfl, by decide⟩, fun {fuel rest} _ _ => ?_⟩
      rw [scan]
      rfl
  | false =>
      rw [renderAt]
      refine ⟨⟨'f', "alse".toList, rfl, rfl, by decide⟩, fun {fuel rest} _ _ => ?_⟩
      rw [scan]
      rfl

/-- A written string is read. -/
theorem readAs_string (s : String) :
    ReadAs (renderAt level (.string s)).toList (.string (some s)) := by
  obtain ⟨body, text, read⟩ := scanString?_quote s
  rw [renderAt, text]
  refine ⟨⟨'"', body, rfl, rfl, by decide⟩, fun {fuel rest} _ _ => ?_⟩
  have solid := skipSpaces_of_start (c := '"') rfl (body ++ rest)
  rw [List.cons_append, scan, solid]
  simp only [read]

/-- A numeral starts with a digit or a sign. -/
def StartsNumeral (c : Char) : Prop := c = '-' ∨ c.isDigit = true

/-- A numeral does not start with a character that is neither the sign nor a digit. -/
theorem StartsNumeral.ne {c d : Char} (starts : StartsNumeral c)
    (other : d ≠ '-' ∧ d.isDigit = false) : c ≠ d := by
  rintro rfl
  rcases starts with sign | digit
  · exact other.1 sign
  · rw [other.2] at digit
    cases digit

/-- A numeral does not start with a blank. -/
theorem StartsNumeral.solid {c : Char} (starts : StartsNumeral c) : isSpace c = false := by
  have blank := starts.ne (d := ' ') (by decide)
  have line := starts.ne (d := '\n') (by decide)
  have tab := starts.ne (d := '\t') (by decide)
  have carriage := starts.ne (d := '\r') (by decide)
  simp [isSpace, blank, line, tab, carriage]

/-- A character that starts a numeral starts no other value. -/
theorem scan_numeral {c : Char} (starts : StartsNumeral c) (fuel : Nat) (more : List Char) :
    scan (fuel + 1) (c :: more) = scanNumber (c :: more) := by
  rw [scan, skipSpaces_of_start starts.solid]
  split
  case h_1 same => cases same
  case h_8 =>
    rename_i same
    cases same
    exact if_pos starts
  -- The other cases are those of the characters that start words, strings, arrays and objects.
  all_goals
    rename_i same
    exact absurd (List.cons.inj same).1 (starts.ne (by decide))

/-- The text of an integer starts with the sign or a digit. -/
theorem exists_start_of_integer (n : Int) :
    ∃ c more, (toString n).toList = c :: more ∧ StartsNumeral c := by
  rw [toList_toString_int]
  split
  · exact ⟨_, _, rfl, Or.inl rfl⟩
  · cases digits : Nat.toDigits 10 n.natAbs with
    | nil => exact absurd digits Nat.toDigits_ne_nil
    | cons c more =>
        exact ⟨c, more, rfl, Or.inr (isDigit_of_mem_toDigits c (digits ▸ List.mem_cons_self))⟩

/-- An integer of 64 bits is read. -/
theorem readAs_integer {n : Int} (word : inIntegerRange n = true) :
    ReadAs (renderAt level (.number (.integer n))).toList (.number (some (.integer n))) := by
  obtain ⟨c, more, written, starts⟩ := exists_start_of_integer n
  rw [renderAt, Number.render]
  refine ⟨⟨c, more, written, starts.solid, starts.ne (by decide)⟩, fun {fuel rest} _ ends => ?_⟩
  obtain ⟨numeral, read, value⟩ := Numeral.exists_scan? word ends
  rw [written, List.cons_append] at read ⊢
  rw [scan_numeral starts, scanNumber, read]
  simp only [value]

/-! ### Items

After each item the reader looks at what follows: a comma, and then the next item, or the bracket. The
run over all items is by induction on those that are left, with one unit of fuel for each. -/

section Items

variable {text : List Char} {reading : Reading} (readAs : ReadAs text reading)
  (whole : reading.isBroken = false)
include readAs whole

/-- The last item of an array stands before a line end and the bracket. -/
theorem scanItems_last {fuel : Nat} (enough : text.length ≤ fuel + 1) (rest : List Char) :
    scanItems (fuel + 2) (text ++ ((newline level).toList ++ ']' :: rest)) =
      ([reading], true, rest) := by
  have after : skipSpaces ((newline level).toList ++ ']' :: rest) = ']' :: rest :=
    skipSpaces_blank isSpace_of_mem_newline _
  have ends : EndsNumeral ((newline level).toList ++ ']' :: rest) := by
    rw [toList_newline]
    exact .cons (Or.inr rfl) _
  rw [scanItems, readAs.scanned enough ends]
  simp only [whole, after]
  rfl

/-- Any other item stands before a comma, a line end and the next item. -/
theorem scanItems_next {fuel : Nat} (enough : text.length ≤ fuel + 1) {next : List Char}
    (solid : skipSpaces next = next) (item : ∀ more, next ≠ ']' :: more) :
    scanItems (fuel + 2) (text ++ (',' :: ((newline level).toList ++ next))) =
      (reading :: (scanItems (fuel + 1) next).1, (scanItems (fuel + 1) next).2) := by
  have comma : skipSpaces (',' :: ((newline level).toList ++ next)) =
      ',' :: ((newline level).toList ++ next) := skipSpaces_of_start rfl _
  have after : skipSpaces ((newline level).toList ++ next) = next :=
    (skipSpaces_blank isSpace_of_mem_newline _).trans solid
  rw [scanItems, readAs.scanned enough (.cons (Or.inl rfl) _)]
  simp only [whole, comma, after]
  rw [if_neg Bool.false_ne_true]

end Items

/-- The other items of an array are written one by one, each after a comma and a line end. -/
theorem toList_renderItems_cons (item : Json) (items : List Json) :
    (renderItems level (item :: items)).toList =
      ',' :: ((newline level).toList ++
        ((renderAt level item).toList ++ (renderItems level items).toList)) := by
  rw [renderItems]
  simp


/-- The items of a written array are read up to its bracket, given fuel for their text. -/
theorem scanItems_written {item : Json} {items : List Json}
    (each : ∀ other ∈ item :: items, ReadAs (renderAt (level + 1) other).toList (ofJson other))
    (fuel : Nat) (enough : (renderAt (level + 1) item).toList.length +
      (renderItems (level + 1) items).toList.length ≤ fuel + 1) (rest : List Char) :
    scanItems (fuel + 2) ((renderAt (level + 1) item).toList ++
        ((renderItems (level + 1) items).toList ++ ((newline level).toList ++ ']' :: rest))) =
      (ofItems (item :: items), true, rest) := by
  induction items generalizing item fuel with
  | nil =>
      exact scanItems_last level (each item List.mem_cons_self) (isBroken_ofJson item) (by omega) rest
  | cons next items ih =>
      obtain ⟨first, later⟩ := List.forall_mem_cons.1 each
      obtain ⟨c, more, start, solid, item⟩ := (later next List.mem_cons_self).start
      rw [toList_renderItems_cons] at enough ⊢
      simp only [List.length_cons, List.length_append] at enough
      -- The first item has some text, so that of the others takes less fuel.
      have nonempty := first.length_pos
      obtain ⟨fuel, rfl⟩ : ∃ inner, fuel = inner + 1 := ⟨fuel - 1, by omega⟩
      have remaining := ih later fuel (by omega)
      simp only [List.cons_append, List.append_assoc]
      rw [scanItems_next (level + 1) first (isBroken_ofJson _) (by omega), remaining]
      · rfl
      · rw [start]
        exact skipSpaces_of_start solid _
      · rw [start]
        exact fun _ same => item (List.cons.inj same).1

/-! ### Members

The same for members, with a name and a colon before each value. -/

/-- A member is its name, a colon with a blank, and its value. -/
def memberText (name : String) (text : List Char) : List Char :=
  (quote name).toList ++ (':' :: ' ' :: text)

section Members

variable {text : List Char} {reading : Reading} (readAs : ReadAs text reading)
  (whole : reading.isBroken = false) (name : String)
include readAs whole

/-- A member is read up to what follows it, which decides how the object goes on. -/
theorem scanMembers_member {fuel : Nat} (enough : text.length ≤ fuel + 1) {after : List Char}
    (ends : EndsNumeral after) :
    scanMembers (fuel + 2) (memberText name text ++ after) =
      match skipSpaces after with
      | '\x7d' :: rest => ([(some name, reading)], true, rest)
      | ',' :: rest =>
          let (members, closed, rest) := scanMembers (fuel + 1) rest
          ((some name, reading) :: members, closed, rest)
      | rest => ([(some name, reading)], false, rest) := by
  obtain ⟨body, quoted, named⟩ := scanString?_quote name
  have start := skipSpaces_of_start (c := '"') rfl
  have colon := skipSpaces_of_start (c := ':') rfl
  have space : ∀ c ∈ [' '], isSpace c = true := by
    intro c member
    rw [List.mem_singleton.1 member]
    rfl
  have blank (cs : List Char) : scan (fuel + 1) (' ' :: cs) = scan (fuel + 1) cs :=
    scan_blank space fuel cs
  have value := readAs.scanned enough ends
  rw [memberText, quoted]
  simp only [List.cons_append, List.append_assoc]
  rw [scanMembers, start]
  simp only [named, colon, blank, value, whole]
  rfl

/-- The last member of an object stands before a line end and the brace. -/
theorem scanMembers_last {fuel : Nat} (enough : text.length ≤ fuel + 1) (rest : List Char) :
    scanMembers (fuel + 2) (memberText name text ++ ((newline level).toList ++ '\x7d' :: rest)) =
      ([(some name, reading)], true, rest) := by
  have after : skipSpaces ((newline level).toList ++ '\x7d' :: rest) = '\x7d' :: rest :=
    skipSpaces_blank isSpace_of_mem_newline _
  have ends : EndsNumeral ((newline level).toList ++ '\x7d' :: rest) := by
    rw [toList_newline]
    exact .cons (Or.inr rfl) _
  rw [scanMembers_member readAs whole name enough ends, after]
  rfl

/-- Any other member stands before a comma, a line end and the next member. -/
theorem scanMembers_next {fuel : Nat} (enough : text.length ≤ fuel + 1) (next : List Char) :
    scanMembers (fuel + 2) (memberText name text ++ (',' :: ((newline level).toList ++ next))) =
      ((some name, reading) :: (scanMembers (fuel + 1) next).1, (scanMembers (fuel + 1) next).2) := by
  have comma : skipSpaces (',' :: ((newline level).toList ++ next)) =
      ',' :: ((newline level).toList ++ next) := skipSpaces_of_start rfl _
  have line : scanMembers (fuel + 1) ((newline level).toList ++ next) =
      scanMembers (fuel + 1) next := by
    rw [scanMembers, scanMembers, skipSpaces_blank isSpace_of_mem_newline]
  rw [scanMembers_member readAs whole name enough (.cons (Or.inl rfl) _), comma]
  simp only [line]

end Members

/-- The other members of an object are written one by one, each after a comma and a line end. -/
theorem toList_renderMembers_cons (member : String × Json) (members : List (String × Json)) :
    (renderMembers level (member :: members)).toList =
      ',' :: ((newline level).toList ++
        (memberText member.1 (renderAt level member.2).toList ++
          (renderMembers level members).toList)) := by
  rw [renderMembers]
  simp [memberText]

/-- The members of a written object are read up to its brace, given fuel for their text. -/
theorem scanMembers_written {member : String × Json} {members : List (String × Json)}
    (each : ∀ other ∈ member :: members,
      ReadAs (renderAt (level + 1) other.2).toList (ofJson other.2))
    (fuel : Nat) (enough : (renderAt (level + 1) member.2).toList.length +
      (renderMembers (level + 1) members).toList.length ≤ fuel + 1) (rest : List Char) :
    scanMembers (fuel + 2) (memberText member.1 (renderAt (level + 1) member.2).toList ++
        ((renderMembers (level + 1) members).toList ++ ((newline level).toList ++ '\x7d' :: rest))) =
      (ofMembers (member :: members), true, rest) := by
  induction members generalizing member fuel with
  | nil =>
      exact scanMembers_last level (each member List.mem_cons_self) (isBroken_ofJson member.2)
        member.1 (by omega) rest
  | cons next members ih =>
      obtain ⟨first, later⟩ := List.forall_mem_cons.1 each
      have nonempty := first.length_pos
      rw [toList_renderMembers_cons] at enough ⊢
      simp only [List.length_cons, List.length_append, memberText] at enough
      obtain ⟨fuel, rfl⟩ : ∃ inner, fuel = inner + 1 := ⟨fuel - 1, by omega⟩
      have remaining := ih later fuel (by omega)
      simp only [List.cons_append, List.append_assoc]
      rw [scanMembers_next (level + 1) first (isBroken_ofJson _) _ (by omega), remaining]
      rfl

/-! ### Whole values

A written value is read by induction on the value, as its items and members are by then. -/

/-- An array that is not empty is read by its items. -/
theorem scan_array (fuel : Nat) {cs : List Char} (solid : skipSpaces cs = cs)
    (item : ∀ more, cs ≠ ']' :: more) :
    scan (fuel + 1) ('[' :: ((newline level).toList ++ cs)) =
      (.array (scanItems fuel cs).1 (scanItems fuel cs).2.1, (scanItems fuel cs).2.2) := by
  have bracket := skipSpaces_of_start (c := '[') rfl
  have after : skipSpaces ((newline level).toList ++ cs) = cs :=
    (skipSpaces_blank isSpace_of_mem_newline _).trans solid
  rw [scan, bracket]
  simp only [after]

/-- An object that is not empty is read by its members. -/
theorem scan_object (fuel : Nat) {cs : List Char} (solid : skipSpaces cs = cs)
    (member : ∀ more, cs ≠ '\x7d' :: more) :
    scan (fuel + 1) ('\x7b' :: ((newline level).toList ++ cs)) =
      (.object (scanMembers fuel cs).1 (scanMembers fuel cs).2.1, (scanMembers fuel cs).2.2) := by
  have brace := skipSpaces_of_start (c := '\x7b') rfl
  have after : skipSpaces ((newline level).toList ++ cs) = cs :=
    (skipSpaces_blank isSpace_of_mem_newline _).trans solid
  rw [scan, brace]
  simp only [after]

/-- An array is read if its items are. -/
theorem readAs_array {items : List Json}
    (each : ∀ item ∈ items, ReadAs (renderAt (level + 1) item).toList (ofJson item)) :
    ReadAs (renderAt level (.array items)).toList (ofJson (.array items)) := by
  cases items with
  | nil =>
      rw [renderAt, ofJson, ofItems]
      refine ⟨⟨'[', [']'], rfl, rfl, by decide⟩, fun {fuel rest} _ _ => ?_⟩
      rw [scan]
      rfl
  | cons item items =>
      have text : (renderAt level (.array (item :: items))).toList =
          '[' :: ((newline (level + 1)).toList ++ ((renderAt (level + 1) item).toList ++
            ((renderItems (level + 1) items).toList ++ ((newline level).toList ++ [']'])))) := by
        rw [renderAt]
        simp
      rw [text]
      refine ⟨⟨'[', _, rfl, rfl, by decide⟩, fun {fuel rest} enough _ => ?_⟩
      have first := each item List.mem_cons_self
      have nonempty := first.length_pos
      simp only [List.length_cons, List.length_append, List.length_nil] at enough
      obtain ⟨fuel, rfl⟩ : ∃ inner, fuel = inner + 2 := ⟨fuel - 2, by omega⟩
      have read := scanItems_written level each fuel (by omega) rest
      obtain ⟨c, more, start, solid, opens⟩ := first.start
      simp only [List.cons_append, List.append_assoc, List.nil_append]
      rw [scan_array (level + 1), read, ofJson]
      · rw [start]
        exact skipSpaces_of_start solid _
      · rw [start]
        exact fun _ same => opens (List.cons.inj same).1

/-- An object is read if the values of its members are. -/
theorem readAs_object {members : List (String × Json)}
    (each : ∀ member ∈ members, ReadAs (renderAt (level + 1) member.2).toList (ofJson member.2)) :
    ReadAs (renderAt level (.object members)).toList (ofJson (.object members)) := by
  cases members with
  | nil =>
      rw [renderAt, ofJson, ofMembers]
      refine ⟨⟨'\x7b', ['\x7d'], rfl, rfl, by decide⟩, fun {fuel rest} _ _ => ?_⟩
      rw [scan]
      rfl
  | cons member members =>
      have text : (renderAt level (.object (member :: members))).toList =
          '\x7b' :: ((newline (level + 1)).toList ++
            (memberText member.1 (renderAt (level + 1) member.2).toList ++
              ((renderMembers (level + 1) members).toList ++
                ((newline level).toList ++ ['\x7d'])))) := by
        rw [renderAt]
        simp [memberText]
      rw [text]
      refine ⟨⟨'\x7b', _, rfl, rfl, by decide⟩, fun {fuel rest} enough _ => ?_⟩
      have nonempty := (each member List.mem_cons_self).length_pos
      simp only [List.length_cons, List.length_append, List.length_nil, memberText] at enough
      obtain ⟨fuel, rfl⟩ : ∃ inner, fuel = inner + 2 := ⟨fuel - 2, by omega⟩
      have read := scanMembers_written level each fuel (by omega) rest
      obtain ⟨body, quoted, _⟩ := scanString?_quote member.1
      simp only [List.cons_append, List.append_assoc, List.nil_append]
      rw [scan_object (level + 1), read, ofJson]
      · rw [memberText, quoted]
        exact skipSpaces_of_start rfl _
      · rw [memberText, quoted]
        exact fun _ same => absurd (List.cons.inj same).1 (by decide)

/-- A written value whose numbers are integers of 64 bits is read as it is. -/
theorem readAs_renderAt {value : Json} (numbers : value.Numbers Number.IsWord) :
    ReadAs (renderAt level value).toList (ofJson value) := by
  induction numbers generalizing level with
  | null => exact readAs_null level
  | bool => exact readAs_bool level _
  | @number n word =>
      cases n with
      | integer n => exact readAs_integer level word
      | double x => exact absurd word id
  | string => exact readAs_string level _
  | array _ ih => exact readAs_array level fun item member => ih item member (level + 1)
  | object _ ih => exact readAs_object level fun item member => ih item member (level + 1)

/-- The text of a value is read as that value, and nothing follows it. -/
theorem ofText_render {value : Json} (numbers : value.Numbers Number.IsWord) :
    Reading.ofText value.render = (ofJson value, true) := by
  have enough : (renderAt 0 value).toList.length ≤ 2 * (renderAt 0 value).toList.length + 1 + 1 := by
    omega
  have read := (readAs_renderAt 0 numbers).scanned enough .nil
  rw [List.append_nil] at read
  rw [ofText, render]
  simp only [read]
  rfl

end Reading

/-- A plain value whose numbers are integers of 64 bits is the value of its text, if it nests no deeper
    than texts may. -/
theorem parse?_render {value : Json} (plain : value.Plain Number.IsWord)
    (bound : value.depth ≤ depthLimit) : parse? value.render = some value := by
  rw [parse?, Reading.ofText_render plain.numbers]
  exact Reading.value?_ofJson plain bound

end SwaggerDocs.Json
