import QueryFrame.Json.Load
import QueryFrame.Json.Writer
import QueryFrame.Proofs.Vocabulary

/-!
# Written JSON can be read

What is written of a value is read as that value, wherever the text ends or goes on behind it. This
holds of values whose numbers are whole and whose strings all name a text (`Json.Plain`), and no
other value comes from the library.

Characters, strings and numbers come first, each with what follows left open. A number ends where
its text is followed by a delimiter, or nothing (`Json.Delimits`), and every value does in the text
of a larger one. The induction is on the value, its items and its members together, and the count
that bounds the readers is paid for by the length of the text that is still to be read.
-/

namespace QueryFrame.Json

open Number

/-! ## Strings -/

theorem hexValue?_hexDigit {n : Nat} (h : n < 16) : hexValue? (hexDigit n) = some n := by
  have hall : ∀ n < 16, hexValue? (hexDigit n) = some n := by decide
  exact hall n h

/-- The three ways to write a character: with a letter, by its number, or as it is. -/
theorem escape_cases (c : Char) :
    (∃ letter, escape c = ['\\', letter] ∧ unescape? letter = some c) ∨
      (c.toNat < 32 ∧
        escape c = ['\\', 'u', '0', '0', hexDigit (c.toNat / 16), hexDigit (c.toNat % 16)]) ∨
      (escape c = [c] ∧ c ≠ '"' ∧ c ≠ '\\' ∧ 32 ≤ c.toNat) := by
  by_cases hletter : c ∈ ['"', '\\', '\n', '\r', '\t', '\x08', '\x0c']
  · refine .inl ?_
    simp only [List.mem_cons, List.not_mem_nil, or_false] at hletter
    rcases hletter with rfl | rfl | rfl | rfl | rfl | rfl | rfl <;> exact ⟨_, rfl, rfl⟩
  · simp only [List.mem_cons, List.not_mem_nil, or_false, not_or] at hletter
    obtain ⟨hquote, hbackslash, hn, hr, ht, hb, hf⟩ := hletter
    have hescape : escape c = if c.toNat < 32 then
        ['\\', 'u', '0', '0', hexDigit (c.toNat / 16), hexDigit (c.toNat % 16)] else [c] := by
      rw [escape, if_neg hquote, if_neg hbackslash, if_neg hn, if_neg hr, if_neg ht, if_neg hb,
        if_neg hf]
    rw [hescape]
    split
    · next hcontrol => exact .inr (.inl ⟨hcontrol, rfl⟩)
    · next hplain => exact .inr (.inr ⟨rfl, hquote, hbackslash, Nat.le_of_not_lt hplain⟩)

/-- **A written character is read as the character.** -/
theorem readPoints_escape (c : Char) (rest : List Char) :
    readPoints (escape c ++ rest) =
      (readPoints rest).map fun (points, later) => (c.toNat :: points, later) := by
  rcases escape_cases c with ⟨letter, hescape, hletter⟩ | ⟨hcontrol, hescape⟩ |
      ⟨hescape, hquote, hbackslash, hplain⟩
  · have hnumber : letter ≠ 'u' := by
      rintro rfl
      cases hletter
    rw [hescape, List.cons_append, List.cons_append, List.nil_append, readPoints, hletter]
    · cases readPoints rest <;> rfl
    · exact fun _ _ _ _ _ h => absurd h hnumber
  · have hhigh := hexValue?_hexDigit (show c.toNat / 16 < 16 by omega)
    have hlow := hexValue?_hexDigit (show c.toNat % 16 < 16 by omega)
    have hzero : hexValue? '0' = some 0 := by decide
    have hpoint : ((0 * 16 + 0) * 16 + c.toNat / 16) * 16 + c.toNat % 16 = c.toNat := by omega
    rw [hescape]
    simp only [List.cons_append, List.nil_append]
    rw [readPoints, hzero, hhigh, hlow]
    simp only [Option.bind_eq_bind, Option.bind_some, hpoint]
    cases readPoints rest <;> rfl
  · have hallowed : ¬ (decide (c.toNat < 32) || decide (c = '\\')) = true := by
      simp [hbackslash, hplain]
    rw [hescape, List.cons_append, List.nil_append, readPoints, if_neg hallowed]
    · cases readPoints rest <;> rfl
    · exact fun h => absurd h hquote
    · exact fun _ _ _ _ _ h => absurd h hbackslash
    · exact fun _ _ h => absurd h hbackslash

/-- **A written text is read character by character**, up to the mark that closes it. -/
theorem readPoints_flatMap (text rest : List Char) :
    readPoints (text.flatMap escape ++ '"' :: rest) = some (text.map Char.toNat, rest) := by
  induction text with
  | nil => rw [List.flatMap_nil, List.nil_append, readPoints, List.map_nil]
  | cons c text ih =>
    rw [List.flatMap_cons, List.append_assoc, readPoints_escape, ih]
    rfl

/-- No character is half of a surrogate pair. -/
theorem not_surrogate (c : Char) : isLeading c.toNat = false ∧ isTrailing c.toNat = false := by
  have hvalid : c.toNat < 0xD800 ∨ 0xDFFF < c.toNat ∧ c.toNat < 0x110000 := c.valid
  simp only [isLeading, isTrailing, Bool.and_eq_false_iff, decide_eq_false_iff_not]
  omega

/-- **The characters of a text are put together again.** -/
theorem pairUp_map_toNat (text : List Char) : pairUp (text.map Char.toNat) = some text := by
  induction text with
  | nil => rfl
  | cons c text ih =>
    obtain ⟨hleading, htrailing⟩ := not_surrogate c
    cases text with
    | nil =>
      rw [List.map_singleton, pairUp, hleading, htrailing]
      simp
    | cons next text =>
      rw [List.map_cons, List.map_cons, pairUp, hleading, htrailing, ← List.map_cons, ih]
      simp

/-- **A written string is read as its text.** -/
theorem readString_flatMap (text : String) (rest : List Char) :
    readString (text.toList.flatMap escape ++ '"' :: rest) = some (some text, rest) := by
  rw [readString, readPoints_flatMap]
  simp [pairUp_map_toNat]

/-! ## Numbers -/

/-- Whether a value ends where `rest` begins: with the text, or with a delimiter. -/
def Delimits (rest : List Char) : Prop :=
  ∀ c ∈ rest.head?, c = ',' ∨ c = ']' ∨ c = '}'

/-- No delimiter goes on with a number. -/
theorem Delimits.ne {rest : List Char} (h : Delimits rest) {c : Char}
    (hc : c ∉ [',', ']', '}']) : rest.head? ≠ some c := by
  intro hhead
  have hdelimiter := h c hhead
  exact hc (by simpa using hdelimiter)

theorem readPlaces_of_delimits {rest : List Char} (h : Delimits rest) :
    readPlaces rest = some ([], rest) := by
  rw [readPlaces]
  rintro later rfl
  exact h.ne (by decide) rfl

theorem readExponent_of_delimits {rest : List Char} (h : Delimits rest) :
    readExponent rest = some ([], rest) := by
  cases rest with
  | nil => rfl
  | cons e rest =>
    have he : ¬ (decide (e = 'e') || decide (e = 'E')) = true := by
      have hlower : some e ≠ some 'e' := h.ne (by decide)
      have hupper : some e ≠ some 'E' := h.ne (by decide)
      simp_all
    cases rest with
    | nil => rw [readExponent, if_neg he]
    | cons sign rest => rw [readExponent, if_neg he]

/-- The whole part of a number is all of its digits, since none but zero starts with a zero. -/
theorem readWhole_digits (n : Nat) {rest : List Char} (hrest : Delimits rest) :
    readWhole (Decimal.digits n ++ rest) = some (Decimal.digits n, rest) := by
  have hdigit : ∀ c ∈ rest.head?, Decimal.isDigit c = false := by
    intro c hc
    rcases hrest c hc with rfl | rfl | rfl <;> decide
  by_cases hn : n = 0
  · have hzero : Decimal.digits 0 = ['0'] := by
      rw [Decimal.digits]
      rfl
    rw [hn, hzero]
    rfl
  · obtain ⟨c, hhead, -, hzero⟩ := Decimal.exists_head_digits n rest
    rw [readWhole, Decimal.readDigits_digits n hdigit]
    intro later htext
    rw [htext] at hhead
    exact hzero hn (Option.some.inj hhead).symm

theorem readUnsigned_digits (n : Nat) {rest : List Char} (hrest : Delimits rest) :
    readUnsigned (Decimal.digits n ++ rest) = some (Decimal.digits n, rest) := by
  rw [readUnsigned, readWhole_digits n hrest]
  simp [readPlaces_of_delimits hrest, readExponent_of_delimits hrest]

/-- **A whole number is read as it is written.** -/
theorem readNumber_signed (n : Int) {rest : List Char} (hrest : Delimits rest) :
    readNumber (Decimal.signed n ++ rest) = some (Decimal.signed n, rest) := by
  cases n with
  | ofNat n =>
    obtain ⟨c, hhead, hdigit, -⟩ := Decimal.exists_head_digits n rest
    rw [Decimal.signed, readNumber, readUnsigned_digits n hrest]
    intro later htext
    rw [htext] at hhead
    rw [← Option.some.inj hhead] at hdigit
    exact absurd hdigit (by decide)
  | negSucc n =>
    rw [Decimal.signed, List.cons_append, readNumber, readUnsigned_digits (n + 1) hrest]
    rfl

/-! ## Values -/

mutual

/-- A value of which the text says everything: its numbers are whole, and every string names a
text. -/
def Plain : Json → Prop
  | .null | .bool _ => True
  | .number lexeme => ∃ n, lexeme = Decimal.signed n
  | .string text => text.isSome
  | .array items => AllPlain items
  | .object members => MembersPlain members

/-- Items of which the text says everything. -/
def AllPlain : List Json → Prop
  | [] => True
  | item :: items => Plain item ∧ AllPlain items

/-- Members of which the text says everything. -/
def MembersPlain : List (Option String × Json) → Prop
  | [] => True
  | (key, value) :: members => key.isSome ∧ Plain value ∧ MembersPlain members

end

/-- A text that does not begin with a blank stays as it is when blanks are skipped. -/
theorem skipBlanks_of_head? {cs : List Char} {c : Char} (hhead : cs.head? = some c)
    (hc : isBlank c = false) : skipBlanks cs = cs := by
  cases cs with
  | nil => rfl
  | cons first rest =>
    obtain rfl := Option.some.inj hhead
    rw [skipBlanks, List.dropWhile_cons_of_neg (by rw [hc]; exact Bool.false_ne_true)]

theorem not_blank_of_isNumeral {c : Char} (hc : isNumeral c = true) : isBlank c = false := by
  rw [Bool.eq_false_iff]
  intro hblank
  simp only [isBlank, Bool.or_eq_true, decide_eq_true_eq] at hblank
  rcases hblank with ((rfl | rfl) | rfl) | rfl <;> exact absurd hc (by decide)

/-- A text that begins with a character of a number is read as a number. -/
theorem readValue_number {cs : List Char} {c : Char} (hhead : cs.head? = some c)
    (hc : isNumeral c = true) (fuel : Nat) :
    readValue (fuel + 1) cs = (readNumber cs).map fun (lexeme, rest) => (.number lexeme, rest) := by
  rw [readValue, skipBlanks_of_head? hhead (not_blank_of_isNumeral hc)]
  split
  case h_7 => rfl
  -- no other value begins like a number
  all_goals
    rw [← Option.some.inj hhead] at hc
    exact absurd hc (by decide)

theorem delimits_nil : Delimits [] := by
  intro c hc
  cases hc

theorem delimits_cons {c : Char} (hc : c ∈ [',', ']', '}']) (rest : List Char) :
    Delimits (c :: rest) := by
  rintro other ⟨⟩
  simpa using hc

theorem length_lt_writeStringOnto (text : Option String) (rest : List Char) :
    rest.length < (writeStringOnto text rest).length := by
  cases text with
  | none =>
    simp only [writeStringOnto, List.length_append, List.length_cons]
    omega
  | some text =>
    simp only [writeStringOnto, List.length_append, List.length_cons]
    omega

mutual

/-- **A value takes up text**, so there is less to read behind it. -/
theorem length_lt_writeOnto : (json : Json) → json.Plain → (rest : List Char) →
    rest.length < (writeOnto json rest).length
  | .null, _, rest | .bool true, _, rest | .bool false, _, rest => by
    simp only [writeOnto, List.length_append]
    exact Nat.lt_add_of_pos_left (by decide)
  | .number lexeme, hplain, rest => by
    obtain ⟨n, rfl⟩ := hplain
    rw [writeOnto, List.length_append]
    exact Nat.lt_add_of_pos_left (List.length_pos_iff.mpr (Decimal.signed_ne_nil n))
  | .string text, _, rest => length_lt_writeStringOnto text rest
  | .array [], _, rest => by
    simp only [writeOnto, List.length_cons]
    omega
  | .array (item :: items), hplain, rest => by
    have hitem := length_lt_writeOnto item hplain.1 (writeItemsOnto items (']' :: rest))
    have hitems := length_le_writeItemsOnto items hplain.2 (']' :: rest)
    simp only [writeOnto, List.length_cons] at hitem hitems ⊢
    omega
  | .object [], _, rest => by
    simp only [writeOnto, List.length_cons]
    omega
  | .object ((key, value) :: members), hplain, rest => by
    have hkey := length_lt_writeStringOnto key
      (':' :: writeOnto value (writeMembersOnto members ('}' :: rest)))
    have hvalue := length_lt_writeOnto value hplain.2.1 (writeMembersOnto members ('}' :: rest))
    have hmembers := length_le_writeMembersOnto members hplain.2.2 ('}' :: rest)
    simp only [writeOnto, List.length_cons] at hkey hvalue hmembers ⊢
    omega

theorem length_le_writeItemsOnto : (items : List Json) → AllPlain items → (rest : List Char) →
    rest.length ≤ (writeItemsOnto items rest).length
  | [], _, rest => Nat.le_refl _
  | item :: items, hplain, rest => by
    have hitem := length_lt_writeOnto item hplain.1 (writeItemsOnto items rest)
    have hitems := length_le_writeItemsOnto items hplain.2 rest
    simp only [writeItemsOnto, List.length_cons]
    omega

theorem length_le_writeMembersOnto : (members : List (Option String × Json)) →
    MembersPlain members → (rest : List Char) →
    rest.length ≤ (writeMembersOnto members rest).length
  | [], _, rest => Nat.le_refl _
  | (key, value) :: members, hplain, rest => by
    have hkey := length_lt_writeStringOnto key
      (':' :: writeOnto value (writeMembersOnto members rest))
    have hvalue := length_lt_writeOnto value hplain.2.1 (writeMembersOnto members rest)
    have hmembers := length_le_writeMembersOnto members hplain.2.2 rest
    simp only [writeMembersOnto, List.length_cons] at hkey ⊢
    omega

end

/-- A value begins with a character that is neither a blank nor the end of an array. -/
theorem exists_head_writeOnto (json : Json) (hplain : json.Plain) (rest : List Char) :
    ∃ c, (writeOnto json rest).head? = some c ∧ isBlank c = false ∧ c ≠ ']' := by
  cases json with
  | null => exact ⟨'n', rfl, by decide⟩
  | bool value =>
    cases value with
    | false => exact ⟨'f', rfl, by decide⟩
    | true => exact ⟨'t', rfl, by decide⟩
  | number lexeme =>
    obtain ⟨n, rfl⟩ := hplain
    obtain ⟨c, hhead, hc⟩ := exists_numeral_of_signed n rest
    refine ⟨c, hhead, not_blank_of_isNumeral hc, ?_⟩
    rintro rfl
    exact absurd hc (by decide)
  | string text =>
    cases text with
    | none => cases hplain
    | some text => exact ⟨'"', rfl, by decide⟩
  | array items => cases items <;> exact ⟨'[', rfl, by decide⟩
  | object members => cases members <;> exact ⟨'\x7b', rfl, by decide⟩

/-- A written text is read as a key or a string. -/
theorem readString_writeStringOnto {text : Option String} (htext : text.isSome) (rest : List Char) :
    ∃ later, writeStringOnto text rest = '"' :: later ∧ readString later = some (text, rest) := by
  obtain ⟨text, rfl⟩ := Option.isSome_iff_exists.mp htext
  exact ⟨_, rfl, readString_flatMap text rest⟩

/-! ### How the readers go on -/

theorem readValue_array {text : List Char} {c : Char} (hhead : text.head? = some c)
    (hblank : isBlank c = false) (hc : c ≠ ']') (fuel : Nat) :
    readValue (fuel + 1) ('[' :: text) =
      (readItems fuel text).map fun (items, rest) => (.array items, rest) := by
  have hskip : skipBlanks ('[' :: text) = '[' :: text := rfl
  rw [readValue, hskip]
  simp only [skipBlanks_of_head? hhead hblank]
  split
  · next rest =>
    exact absurd (Option.some.inj hhead).symm hc
  · rfl

theorem readItems_last {fuel : Nat} {text rest : List Char} {item : Json}
    (h : readValue fuel text = some (item, ']' :: rest)) :
    readItems (fuel + 1) text = some ([item], rest) := by
  simp [readItems, h, skipBlanks, isBlank]

theorem readItems_more {fuel : Nat} {text later rest : List Char} {item : Json}
    {items : List Json} (h : readValue fuel text = some (item, ',' :: later))
    (hmore : readItems fuel later = some (items, rest)) :
    readItems (fuel + 1) text = some (item :: items, rest) := by
  simp [readItems, h, skipBlanks, isBlank, hmore]

theorem readValue_object (fuel : Nat) (text : List Char) :
    readValue (fuel + 1) ('{' :: '"' :: text) =
      (readMembers fuel ('"' :: text)).map fun (members, rest) => (.object members, rest) := by
  simp [readValue, skipBlanks, isBlank]

theorem readMembers_last {fuel : Nat} {text later rest : List Char} {key : Option String}
    {value : Json} (hkey : readString text = some (key, ':' :: later))
    (h : readValue fuel later = some (value, '}' :: rest)) :
    readMembers (fuel + 1) ('"' :: text) = some ([(key, value)], rest) := by
  simp [readMembers, hkey, h, skipBlanks, isBlank]

theorem readMembers_more {fuel : Nat} {text later more rest : List Char} {key : Option String}
    {value : Json} {members : List (Option String × Json)}
    (hkey : readString text = some (key, ':' :: later))
    (h : readValue fuel later = some (value, ',' :: more))
    (hmore : readMembers fuel more = some (members, rest)) :
    readMembers (fuel + 1) ('"' :: text) = some ((key, value) :: members, rest) := by
  simp [readMembers, hkey, h, skipBlanks, isBlank, hmore]

/-! ### What is written is read -/

mutual

/-- **A written value is read as the value**, if there is fuel for two calls for every character. -/
theorem readValue_writeOnto : (json : Json) → json.Plain → {fuel : Nat} → {rest : List Char} →
    Delimits rest → 2 * (writeOnto json rest).length < fuel →
      readValue fuel (writeOnto json rest) = some (json, rest)
  | json, hplain, 0, _, _, hfuel => by omega
  | .null, _, fuel + 1, rest, _, _ => by
    simp [writeOnto, readValue, skipBlanks, isBlank]
  | .bool true, _, fuel + 1, rest, _, _ => by
    simp [writeOnto, readValue, skipBlanks, isBlank]
  | .bool false, _, fuel + 1, rest, _, _ => by
    simp [writeOnto, readValue, skipBlanks, isBlank]
  | .number lexeme, hplain, fuel + 1, rest, hrest, _ => by
    obtain ⟨n, rfl⟩ := hplain
    obtain ⟨c, hhead, hc⟩ := exists_numeral_of_signed n rest
    rw [writeOnto, readValue_number hhead hc, readNumber_signed n hrest]
    rfl
  | .string text, hplain, fuel + 1, rest, _, _ => by
    obtain ⟨later, hwritten, hread⟩ := readString_writeStringOnto hplain rest
    rw [writeOnto, hwritten, readValue]
    simp [skipBlanks, isBlank, hread]
  | .array [], _, fuel + 1, rest, _, _ => by
    simp [writeOnto, readValue, skipBlanks, isBlank]
  | .array (item :: items), hplain, fuel + 1, rest, _, hfuel => by
    obtain ⟨c, hhead, hblank, hc⟩ :=
      exists_head_writeOnto item hplain.1 (writeItemsOnto items (']' :: rest))
    rw [writeOnto, List.length_cons] at hfuel
    rw [writeOnto, readValue_array hhead hblank hc,
      readItems_writeOnto item items hplain.1 hplain.2 (by omega)]
    rfl
  | .object [], _, fuel + 1, rest, _, _ => by
    simp [writeOnto, readValue, skipBlanks, isBlank]
  | .object ((key, value) :: members), hplain, fuel + 1, rest, _, hfuel => by
    obtain ⟨later, hwritten, -⟩ := readString_writeStringOnto hplain.1
      (':' :: writeOnto value (writeMembersOnto members ('}' :: rest)))
    rw [writeOnto, List.length_cons] at hfuel
    have hread := @readMembers_writeOnto key value members hplain.1 hplain.2.1 hplain.2.2 fuel rest
      (by omega)
    rw [hwritten] at hread
    rw [writeOnto, hwritten, readValue_object, hread]
    rfl

/-- An item and those behind it are read up to the end of the array. -/
theorem readItems_writeOnto (item : Json) : (items : List Json) → item.Plain → AllPlain items →
    {fuel : Nat} → {rest : List Char} →
    2 * (writeOnto item (writeItemsOnto items (']' :: rest))).length + 1 < fuel →
      readItems fuel (writeOnto item (writeItemsOnto items (']' :: rest))) =
        some (item :: items, rest)
  | _, _, _, 0, _, hfuel => by omega
  | [], hitem, _, fuel + 1, rest, hfuel => by
    have hdelimits : Delimits (']' :: rest) := delimits_cons (by decide) rest
    exact readItems_last (readValue_writeOnto item hitem hdelimits (by omega))
  | next :: items, hitem, hitems, fuel + 1, rest, hfuel => by
    rw [writeItemsOnto] at hfuel ⊢
    have hdelimits : Delimits (',' :: writeOnto next (writeItemsOnto items (']' :: rest))) :=
      delimits_cons (by decide) _
    have hlength := length_lt_writeOnto item hitem
      (',' :: writeOnto next (writeItemsOnto items (']' :: rest)))
    rw [List.length_cons] at hlength
    exact readItems_more (readValue_writeOnto item hitem hdelimits (by omega))
      (readItems_writeOnto next items hitems.1 hitems.2 (by omega))

/-- A member and those behind it are read up to the end of the object. -/
theorem readMembers_writeOnto (key : Option String) (value : Json) :
    (members : List (Option String × Json)) → key.isSome → value.Plain → MembersPlain members →
    {fuel : Nat} → {rest : List Char} →
    2 * (writeStringOnto key
      (':' :: writeOnto value (writeMembersOnto members ('}' :: rest)))).length + 1 < fuel →
      readMembers fuel (writeStringOnto key
          (':' :: writeOnto value (writeMembersOnto members ('}' :: rest)))) =
        some ((key, value) :: members, rest)
  | _, _, _, _, 0, _, hfuel => by omega
  | [], hkey, hvalue, _, fuel + 1, rest, hfuel => by
    rw [writeMembersOnto] at hfuel ⊢
    have hdelimits : Delimits ('}' :: rest) := delimits_cons (by decide) rest
    have hlength := length_lt_writeStringOnto key (':' :: writeOnto value ('}' :: rest))
    obtain ⟨later, hwritten, hkey⟩ :=
      readString_writeStringOnto hkey (':' :: writeOnto value ('}' :: rest))
    rw [List.length_cons] at hlength
    rw [hwritten]
    exact readMembers_last hkey (readValue_writeOnto value hvalue hdelimits (by omega))
  | (next, other) :: members, hkey, hvalue, hmembers, fuel + 1, rest, hfuel => by
    rw [writeMembersOnto] at hfuel ⊢
    have hread := @readMembers_writeOnto next other members hmembers.1 hmembers.2.1 hmembers.2.2
      fuel rest
    generalize writeStringOnto next
      (':' :: writeOnto other (writeMembersOnto members ('}' :: rest))) = more at hfuel hread ⊢
    have hdelimits : Delimits (',' :: more) := delimits_cons (by decide) _
    have hlength := length_lt_writeStringOnto key (':' :: writeOnto value (',' :: more))
    have hmore := length_lt_writeOnto value hvalue (',' :: more)
    obtain ⟨later, hwritten, hkey⟩ :=
      readString_writeStringOnto hkey (':' :: writeOnto value (',' :: more))
    rw [List.length_cons] at hlength hmore
    rw [hwritten]
    exact readMembers_more hkey (readValue_writeOnto value hvalue hdelimits (by omega))
      (hread (by omega))

end

/-- **What is written of a value is read as the value.** -/
theorem read?_write {json : Json} (hplain : json.Plain) : read? (write json) = some json := by
  have hread := readValue_writeOnto json hplain delimits_nil
    (show _ < 2 * (writeOnto json []).length + 2 by omega)
  rw [read?, write, String.toList_ofList]
  dsimp only
  rw [hread]
  rfl

end QueryFrame.Json
