import PolicyReconciler.Proofs.Json.Strings

namespace PolicyReconciler.Json

/-!
# Documents read back as they were written

A value whose numbers are whole is written as one line of printable ASCII, and
reading that line gives the value back: every text, every whole number of any size,
and the members of objects in their order.  So two such values never have the same
document.
-/

/-! ## Whole numbers -/

/-- Whether a text does not go on with what could belong to the number before it. -/
def EndsNumber (rest : List Char) : Prop :=
  ∀ character, rest.head? = some character →
    character.isDigit = false ∧ character ≠ '.' ∧ character ≠ 'e' ∧ character ≠ 'E'

/-- A comma or a closing bracket ends a number. -/
theorem endsNumber_cons
    {character : Char}
    (closes : character ∈ [',', ']', '}'])
    (rest : List Char) :
    EndsNumber (character :: rest) := by
  rintro _ ⟨⟩
  simp only [List.mem_cons, List.not_mem_nil, or_false] at closes
  rcases closes with rfl | rfl | rfl <;> decide

/-- Digits are worth the same in both readings. -/
theorem ofDigits_map_asciiDigit (digits : List Char) :
    Decimal.ofDigits (digits.map asciiDigit) = Nat.ofDigitChars 10 digits 0 := by
  simp only [Decimal.ofDigits, List.foldl_map,
    Nat.ofDigitChars_eq_foldl, asciiDigit]

/-- The decimal form of a positive number begins with a digit other than zero. -/
theorem exists_digitsOf
    (number : Nat)
    (positive : 0 < number) :
    ∃ first others, Decimal.digitsOf number = first :: others ∧ first ≠ '0' := by
  induction number using Nat.strongRecOn with
  | ind number inductionHypothesis =>
      unfold Decimal.digitsOf at inductionHypothesis ⊢
      by_cases short : number < 10
      · refine ⟨Nat.digitChar number, [], Nat.toDigits_of_lt_base short, ?_⟩
        rw [ne_eq, Nat.digitChar_eq_zero]
        exact Nat.ne_of_gt positive
      · obtain ⟨first, others, front, nonzero⟩ :=
          inductionHypothesis (number / 10) (by omega) (by omega)
        refine ⟨first, others ++ [Nat.digitChar (number % 10)], ?_, nonzero⟩
        rw [Nat.toDigits_of_base_le (by decide) (by omega), front, List.cons_append]

/-- A number is written in digits. -/
theorem isDigit_of_mem_digitsOf
    {number : Nat}
    {character : Char}
    (inside : character ∈ Decimal.digitsOf number) :
    character.isDigit = true :=
  Nat.isDigit_of_mem_toDigits (by decide) (by decide) inside

/-- The digits in front of an end are split off. -/
theorem splitDigits_append
    {digits rest : List Char}
    (areDigits : ∀ character ∈ digits, character.isDigit = true)
    (ends : EndsNumber rest) :
    splitDigits (digits ++ rest) = (digits.map asciiDigit, rest) := by
  unfold splitDigits
  rw [List.takeWhile_append_of_pos areDigits,
    List.dropWhile_append_of_pos areDigits]
  cases rest with
  | nil =>
      simp
  | cons character rest =>
      simp [(ends character rfl).1]

/-- The digits of a number are read back. -/
theorem readWhole?_digitsOf
    (number : Nat)
    {rest : List Char}
    (ends : EndsNumber rest) :
    readWhole? (Decimal.digitsOf number ++ rest) =
      some ((Decimal.digitsOf number).map asciiDigit, rest) := by
  rcases Nat.eq_zero_or_pos number with rfl | positive
  · rfl
  · have areDigits :
        ∀ character ∈ Decimal.digitsOf number, character.isDigit = true :=
      fun _ inside => isDigit_of_mem_digitsOf inside
    have split := splitDigits_append areDigits ends
    obtain ⟨first, others, shape, nonzero⟩ := exists_digitsOf number positive
    rw [shape, List.cons_append] at split ⊢
    unfold readWhole?
    split
    · rename_i isZero
      injection isZero with isZero
      exact absurd isZero nonzero
    · rw [split]
      rfl

/-- Without a point there is no fraction to read. -/
theorem readPart?_of_ends
    {rest : List Char}
    (ends : EndsNumber rest) :
    readPart? rest = some (none, rest) := by
  unfold readPart?
  split
  · exact absurd rfl (ends '.' rfl).2.1
  · rfl

/-- Without an exponent there is none to read. -/
theorem readExponent?_of_ends
    {rest : List Char}
    (ends : EndsNumber rest) :
    readExponent? rest = some (none, rest) := by
  cases rest with
  | nil =>
      rfl
  | cons mark rest =>
      obtain ⟨_, _, notSmall, notCapital⟩ := ends mark rfl
      simp [readExponent?, notSmall, notCapital]

/-- The digits of a number are read as that number, with the sign given. -/
theorem readUnsigned?_digitsOf
    (negative : Bool)
    (number : Nat)
    {rest : List Char}
    (ends : EndsNumber rest) :
    readUnsigned? negative (Decimal.digitsOf number ++ rest) =
      some (.int (if negative then -(number : Int) else number), rest) := by
  have whole :
      Decimal.ofDigits ((Decimal.digitsOf number).map asciiDigit) = number := by
    rw [ofDigits_map_asciiDigit]
    exact Nat.ofDigitChars_ten_toDigits
  unfold readUnsigned?
  rw [readWhole?_digitsOf number ends]
  dsimp only
  rw [readPart?_of_ends ends]
  dsimp only
  rw [readExponent?_of_ends ends]
  simp only [Option.isNone_none, Bool.and_self, if_true, whole]

/-- A whole number begins with a digit or with its sign. -/
theorem exists_writeInteger (value : Int) :
    ∃ first others, writeInteger value = first :: others ∧
      (first.isDigit = true ∨ first = '-') := by
  unfold writeInteger
  split
  · exact ⟨'-', _, rfl, .inr rfl⟩
  · cases shape : Decimal.digitsOf value.natAbs with
    | nil =>
        exact absurd shape Nat.toDigits_ne_nil
    | cons first others =>
        have inside : first ∈ Decimal.digitsOf value.natAbs := by
          rw [shape]
          exact List.mem_cons_self
        exact ⟨first, others, rfl, .inl (isDigit_of_mem_digitsOf inside)⟩

/-- A written whole number is read back. -/
theorem readNumber?_write
    (value : Int)
    {rest : List Char}
    (ends : EndsNumber rest) :
    readNumber? (writeInteger value ++ rest) = some (.int value, rest) := by
  unfold writeInteger
  split
  · rename_i negative
    change readUnsigned? true (Decimal.digitsOf value.natAbs ++ rest) = _
    rw [readUnsigned?_digitsOf true _ ends, if_pos rfl]
    congr 3
    omega
  · rename_i positive
    have isRead := readUnsigned?_digitsOf false value.natAbs ends
    unfold readNumber?
    split
    · rename_i signed
      have inside : '-' ∈ Decimal.digitsOf value.natAbs := by
        cases shape : Decimal.digitsOf value.natAbs with
        | nil =>
            exact absurd shape Nat.toDigits_ne_nil
        | cons first others =>
            rw [shape] at signed
            injection signed with isSign
            rw [isSign]
            exact List.mem_cons_self
      exact absurd (isDigit_of_mem_digitsOf inside) (by decide)
    · rw [isRead, if_neg (by decide)]
      congr 3
      omega

theorem isPlain_of_isDigit
    {character : Char}
    (isDigit : character.isDigit = true) :
    IsPlain character := by
  have bounds : 48 ≤ character.toNat ∧ character.toNat ≤ 57 := by
    simpa [Char.isDigit, UInt32.le_iff_toNat_le] using isDigit
  exact ⟨by omega, by omega⟩

/-- A whole number is written in plain characters. -/
theorem isPlain_writeInteger (value : Int) :
    ∀ character ∈ writeInteger value, IsPlain character := by
  intro character inside
  unfold writeInteger at inside
  split at inside
  · rcases List.mem_cons.mp inside with rfl | inside
    · decide
    · exact isPlain_of_isDigit (isDigit_of_mem_digitsOf inside)
  · exact isPlain_of_isDigit (isDigit_of_mem_digitsOf inside)

/-! ## Values -/

mutual

/-- Whether all numbers in a value are whole numbers. -/
def isWhole : Json → Bool
  | float _ => false
  | arr items => areWhole items
  | obj members => haveWhole members
  | _ => true

/-- Whole-number values only, in every entry. -/
def areWhole : List Json → Bool
  | [] => true
  | item :: rest => isWhole item && areWhole rest

/-- Whether all numbers in the values of an object are whole numbers. -/
def haveWhole : List (String × Json) → Bool
  | [] => true
  | (_, value) :: rest => isWhole value && haveWhole rest

end

/-- White space, as the reader skips it. -/
def isSpace (character : Char) : Bool :=
  character == ' ' || character == '\n' || character == '\r' || character == '\t'

/-- There is nothing to skip before a visible character. -/
theorem skipSpace_of_visible
    {first : Char}
    (visible : isSpace first = false)
    (rest : List Char) :
    skipSpace (first :: rest) = first :: rest :=
  List.dropWhile_cons_of_neg (by simpa [isSpace] using visible)

theorem skipSpace_space
    (rest : List Char) :
    skipSpace (' ' :: rest) = skipSpace rest :=
  rfl

theorem skipSpace_colon
    (rest : List Char) :
    skipSpace (':' :: rest) = ':' :: rest :=
  rfl

/--
The written form of a value begins with a sign that neither is a space nor closes a
list.
-/
theorem exists_write
    {value : Json}
    (whole : isWhole value = true) :
    ∃ first others, value.write spaced = first :: others ∧ isSpace first = false ∧
      first ≠ ']' := by
  cases value with
  | float number =>
      cases whole
  | bool flag =>
      cases flag <;> exact ⟨_, _, rfl, rfl, by decide⟩
  | int number =>
      obtain ⟨first, others, shape, isDigit | rfl⟩ := exists_writeInteger number
      · refine ⟨first, others, shape, ?_, ?_⟩
        · simp only [isSpace, Bool.or_eq_false_iff, beq_eq_false_iff_ne]
          refine ⟨⟨⟨?_, ?_⟩, ?_⟩, ?_⟩ <;>
          · rintro rfl
            cases isDigit
        · rintro rfl
          cases isDigit
      · exact ⟨_, others, shape, rfl, by decide⟩
  | null | str | arr | obj =>
      exact ⟨_, _, rfl, rfl, by decide⟩

/-- A text that begins with a number is read as one. -/
theorem readValue?_number
    {text rest : List Char}
    {first : Char}
    (steps : Nat)
    (begins : skipSpace text = first :: rest)
    (numeric : first.isDigit = true ∨ first = '-') :
    readValue? (steps + 1) text = readNumber? (first :: rest) := by
  unfold readValue?
  rw [begins]
  split
  case h_7 =>
    rfl
  all_goals
    rename_i isFirst
    injection isFirst with isFirst
    rw [isFirst] at numeric
    exact absurd numeric (by decide)

/-- Two entries are written with a comma and a space between them. -/
theorem writeItems_cons_cons (item next : Json) (more : List Json) :
    writeItems spaced (item :: next :: more) =
      write spaced item ++ ',' :: ' ' :: writeItems spaced (next :: more) := by
  simp [writeItems, spaced]

/-- A single member is written as its key, a colon, a space and its value. -/
theorem writeMembers_single (key : String) (value : Json) :
    writeMembers spaced [(key, value)] =
      '"' :: (key.toList.flatMap writeCharacter ++ '"' :: ':' :: ' ' ::
        write spaced value) := by
  simp [writeMembers, writeString, spaced]

/-- A value is shorter than the member that holds it. -/
theorem length_write_lt_writeMembers (key : String) (value : Json) :
    (write spaced value).length < (writeMembers spaced [(key, value)]).length := by
  rw [writeMembers_single]
  simp only [List.length_cons, List.length_append]
  omega

/-- Two members are written with a comma and a space between them. -/
theorem writeMembers_cons_cons
    (key : String)
    (value : Json)
    (next : String × Json)
    (more : List (String × Json)) :
    writeMembers spaced ((key, value) :: next :: more) =
      writeMembers spaced [(key, value)] ++ ',' :: ' ' ::
        writeMembers spaced (next :: more) := by
  simp [writeMembers, writeString, spaced]

section

variable {key : String}
variable {value : Json}
variable {text after more : List Char}
variable {steps : Nat}

/-- A text that begins with a written member begins with its key. -/
theorem skipSpace_member
    (begins : skipSpace text = writeMembers spaced [(key, value)] ++ after) :
    skipSpace text =
      '"' :: (key.toList.flatMap writeCharacter ++
        '"' :: ':' :: ' ' :: (write spaced value ++ after)) := by
  rw [begins, writeMembers_single]
  simp only [List.cons_append, List.append_assoc]

/-- A member is read that closes its object. -/
theorem readMembers?_last
    (begins : skipSpace text = writeMembers spaced [(key, value)] ++ after)
    (isRead :
      readValue? steps (' ' :: (write spaced value ++ after)) = some (value, after))
    (closes : skipSpace after = '}' :: more) :
    readMembers? (steps + 1) text = some ([(key, value)], more) := by
  rw [readMembers?, skipSpace_member begins]
  simp only [readString?_write, skipSpace_colon, isRead, closes]

/-- A member is read that others follow. -/
theorem readMembers?_next
    {members : List (String × Json)}
    {rest : List Char}
    (begins : skipSpace text = writeMembers spaced [(key, value)] ++ after)
    (isRead :
      readValue? steps (' ' :: (write spaced value ++ after)) = some (value, after))
    (goesOn : skipSpace after = ',' :: more)
    (areRead : readMembers? steps more = some (members, rest)) :
    readMembers? (steps + 1) text = some ((key, value) :: members, rest) := by
  rw [readMembers?, skipSpace_member begins]
  simp only [readString?_write, skipSpace_colon, isRead, goesOn, areRead,
    Option.map_some]

end

/-- The items of a list begin as the first one does. -/
theorem exists_writeItems
    {item : Json}
    {others : List Json}
    (whole : areWhole (item :: others) = true) :
    ∃ first text, writeItems spaced (item :: others) = first :: text ∧
      isSpace first = false ∧
      first ≠ ']' := by
  simp only [areWhole, Bool.and_eq_true] at whole
  obtain ⟨first, text, shape, visible, notClosing⟩ := exists_write whole.1
  cases others with
  | nil =>
      exact ⟨first, text, shape, visible, notClosing⟩
  | cons next more =>
      rw [writeItems_cons_cons, shape]
      exact ⟨first, _, rfl, visible, notClosing⟩

/-- The members of an object begin with the quote of the first key. -/
theorem exists_writeMembers
    (member : String × Json)
    (others : List (String × Json)) :
    ∃ text, writeMembers spaced (member :: others) = '"' :: text := by
  obtain ⟨key, value⟩ := member
  cases others with
  | nil =>
      exact ⟨_, rfl⟩
  | cons next more =>
      exact ⟨_, rfl⟩

mutual

/-- A value is read back, with whatever text stands behind it. -/
theorem readValue?_write : ∀ (value : Json) {text rest : List Char} {steps : Nat},
    isWhole value = true →
    skipSpace text = value.write spaced ++ rest →
    EndsNumber rest →
    2 * (value.write spaced).length ≤ steps →
    readValue? steps text = some (value, rest)
  | .null, text, rest, steps + 1, _, begins, _, _ => by
      rw [readValue?, begins]
      simp [write, readWord?]
  | .bool true, text, rest, steps + 1, _, begins, _, _ => by
      rw [readValue?, begins]
      simp [write, readWord?]
  | .bool false, text, rest, steps + 1, _, begins, _, _ => by
      rw [readValue?, begins]
      simp [write, readWord?]
  | .int number, text, rest, steps + 1, _, begins, ends, _ => by
      have isRead := readNumber?_write number ends
      obtain ⟨first, others, shape, numeric⟩ := exists_writeInteger number
      change skipSpace text = writeInteger number ++ rest at begins
      rw [shape] at begins isRead
      rw [readValue?_number steps begins numeric]
      exact isRead
  | .str content, text, rest, steps + 1, _, begins, _, _ => by
      have isRead := readString?_write content rest
      rw [readValue?, begins]
      simp [write, writeString, isRead]
  | .arr [], text, rest, steps + 1, _, begins, _, _ => by
      rw [readValue?, begins]
      rfl
  | .arr (item :: others), text, rest, steps + 1, whole, begins, _, enough => by
      -- the first item does not begin with the sign that closes an empty list
      obtain ⟨first, more, shape, visible, notClosing⟩ := exists_writeItems whole
      have inside := skipSpace_of_visible visible (more ++ ']' :: rest)
      have enoughInside :
          2 * (writeItems spaced (item :: others)).length + 1 ≤ steps := by
        simp only [write, List.length_cons, List.length_append] at enough
        omega
      have areRead : readItems? steps (first :: (more ++ ']' :: rest)) =
          some (item :: others, rest) :=
        readItems?_write item others whole
          (by rw [shape]; exact inside) enoughInside
      rw [readValue?, begins]
      simp only [write, shape, List.cons_append, List.append_assoc, List.nil_append]
      rw [inside]
      split
      · rename_i isClosing
        injection isClosing with isClosing
        exact absurd isClosing notClosing
      · rw [areRead]
        rfl
  | .obj [], text, rest, steps + 1, _, begins, _, _ => by
      rw [readValue?, begins]
      rfl
  | .obj (member :: others), text, rest, steps + 1, whole, begins, _, enough => by
      obtain ⟨more, shape⟩ := exists_writeMembers member others
      have inside :
          skipSpace ('"' :: (more ++ '}' :: rest)) = '"' :: (more ++ '}' :: rest) :=
        skipSpace_of_visible rfl _
      have enoughInside :
          2 * (writeMembers spaced (member :: others)).length + 1 ≤ steps := by
        simp only [write, List.length_cons, List.length_append] at enough
        omega
      have areRead : readMembers? steps ('"' :: (more ++ '}' :: rest)) =
          some (member :: others, rest) :=
        readMembers?_write member others whole
          (by rw [shape]; exact inside) enoughInside
      rw [readValue?, begins]
      simp only [write, shape, List.cons_append, List.append_assoc, List.nil_append]
      rw [inside]
      simp only [areRead, Option.map_some]
      rfl
  | value, text, rest, 0, whole, begins, _, enough => by
      obtain ⟨first, others, shape, _⟩ := exists_write whole
      rw [shape] at enough
      simp at enough

/-- The items of a list are read back, up to the sign that closes it. -/
theorem readItems?_write :
    ∀ (item : Json) (others : List Json) {text rest : List Char}
    {steps : Nat},
    areWhole (item :: others) = true →
    skipSpace text = writeItems spaced (item :: others) ++ ']' :: rest →
    2 * (writeItems spaced (item :: others)).length + 1 ≤ steps →
    readItems? steps text = some (item :: others, rest)
  | item, [], text, rest, steps + 1, whole, begins, enough => by
      simp only [areWhole, Bool.and_eq_true] at whole
      have isRead : readValue? steps text = some (item, ']' :: rest) :=
        readValue?_write item whole.1 begins (endsNumber_cons (by simp) rest)
          (Nat.le_of_succ_le_succ enough)
      rw [readItems?, isRead]
      rfl
  | item, next :: more, text, rest, steps + 1, whole, begins, enough => by
      obtain ⟨wholeItem, wholeRest⟩ :
          isWhole item = true ∧ areWhole (next :: more) = true := by
        simpa only [areWhole, Bool.and_eq_true] using whole
      rw [writeItems_cons_cons] at begins enough
      simp only [List.append_assoc, List.cons_append, List.length_append,
        List.length_cons]
        at begins enough
      generalize behind :
          writeItems spaced (next :: more) ++ ']' :: rest = later at begins
      have isRead : readValue? steps text = some (item, ',' :: ' ' :: later) :=
        readValue?_write item wholeItem begins
          (endsNumber_cons (by simp) _) (by omega)
      have spaceless : skipSpace (' ' :: later) = later := by
        obtain ⟨first, others, shape, visible, _⟩ := exists_writeItems wholeRest
        rw [skipSpace_space, ← behind, shape]
        exact skipSpace_of_visible visible _
      have areRead : readItems? steps (' ' :: later) = some (next :: more, rest) :=
        readItems?_write next more wholeRest
          (spaceless.trans behind.symm) (by omega)
      rw [readItems?, isRead]
      change (readItems? steps (' ' :: later)).map _ = _
      rw [areRead]
      rfl

/-- The members of an object are read back, up to the sign that closes it. -/
theorem readMembers?_write :
    ∀ (member : String × Json) (others : List (String × Json))
    {text rest : List Char} {steps : Nat},
    haveWhole (member :: others) = true →
    skipSpace text = writeMembers spaced (member :: others) ++ '}' :: rest →
    2 * (writeMembers spaced (member :: others)).length + 1 ≤ steps →
    readMembers? steps text = some (member :: others, rest)
  | (key, value), others, text, rest, steps + 1, whole, begins, enough => by
      obtain ⟨wholeValue, wholeRest⟩ :
          isWhole value = true ∧ haveWhole others = true := by
        simpa only [haveWhole, Bool.and_eq_true] using whole
      have spaceless : ∀ after,
          skipSpace (' ' :: (write spaced value ++ after)) =
            write spaced value ++ after := by
        intro after
        obtain ⟨first, more, shape, visible, _⟩ := exists_write wholeValue
        rw [skipSpace_space, shape]
        exact skipSpace_of_visible visible _
      have short := length_write_lt_writeMembers key value
      cases others with
      | nil =>
          have isRead :
              readValue? steps (' ' :: (write spaced value ++ '}' :: rest)) =
              some (value, '}' :: rest) :=
            readValue?_write value wholeValue (spaceless _)
              (endsNumber_cons (by simp) rest)
              (by omega)
          exact readMembers?_last begins isRead (skipSpace_of_visible rfl _)
      | cons next others =>
          rw [writeMembers_cons_cons] at begins enough
          simp only [List.append_assoc, List.cons_append, List.length_append,
            List.length_cons]
            at begins enough
          generalize behind :
              writeMembers spaced (next :: others) ++ '}' :: rest = later
            at begins
          have isRead : readValue? steps
              (' ' :: (write spaced value ++ ',' :: ' ' :: later)) =
              some (value, ',' :: ' ' :: later) :=
            readValue?_write value wholeValue (spaceless _)
              (endsNumber_cons (by simp) _)
              (by omega)
          have unspaced : skipSpace (' ' :: later) = later := by
            obtain ⟨more, front⟩ := exists_writeMembers next others
            rw [skipSpace_space, ← behind, front]
            exact skipSpace_of_visible rfl _
          have areRead :
              readMembers? steps (' ' :: later) = some (next :: others, rest) :=
            readMembers?_write next others wholeRest
              (unspaced.trans behind.symm) (by omega)
          exact readMembers?_next begins isRead (skipSpace_of_visible rfl _) areRead

end

/-- Reading a document gives the value that was written. -/
theorem parse?_document
    {value : Json}
    (whole : isWhole value = true) :
    parse? value.document = some value := by
  obtain ⟨first, others, shape, visible, _⟩ := exists_write whole
  have isRead :
      readValue? (2 * (value.write spaced).length + 2) (value.write spaced) =
      some (value, []) := by
    apply readValue?_write value whole
    · rw [List.append_nil, shape]
      exact skipSpace_of_visible visible others
    · rintro _ ⟨⟩
    · omega
  unfold parse? document
  rw [String.toList_ofList]
  dsimp only
  rw [isRead]
  rfl

/-- Values whose numbers are whole are told apart by their documents. -/
theorem eq_of_document_eq
    {first second : Json}
    (wholeFirst : isWhole first = true)
    (wholeSecond : isWhole second = true)
    (same : first.document = second.document) :
    first = second := by
  have isFirst := parse?_document wholeFirst
  rw [same, parse?_document wholeSecond] at isFirst
  exact (Option.some.inj isFirst).symm

mutual

/-- A document is written in printable ASCII. -/
theorem isPlain_write : ∀ (value : Json), isWhole value = true →
    ∀ character ∈ value.write spaced, IsPlain character
  | .null, _ | .bool true, _ | .bool false, _ => isPlain_of_all rfl
  | .int number, _ => isPlain_writeInteger number
  | .str content, _ => isPlain_writeString content
  | .arr items, whole => by
      have areItems := isPlain_writeItems items whole
      rw [write]
      exact List.forall_mem_append.mpr
        ⟨List.forall_mem_cons.mpr ⟨by decide, areItems⟩, isPlain_of_all rfl⟩
  | .obj members, whole => by
      have areMembers := isPlain_writeMembers members whole
      rw [write]
      exact List.forall_mem_append.mpr
        ⟨List.forall_mem_cons.mpr ⟨by decide, areMembers⟩, isPlain_of_all rfl⟩

/-- Entries with whole-number values are written in plain characters. -/
theorem isPlain_writeItems : ∀ (items : List Json), areWhole items = true →
    ∀ character ∈ writeItems spaced items, IsPlain character
  | [], _ => by
      simp [writeItems]
  | [item], whole => by
      simp only [areWhole, Bool.and_eq_true] at whole
      exact isPlain_write item whole.1
  | item :: next :: more, whole => by
      obtain ⟨wholeItem, wholeRest⟩ :
          isWhole item = true ∧ areWhole (next :: more) = true := by
        simpa only [areWhole, Bool.and_eq_true] using whole
      have isItem := isPlain_write item wholeItem
      have areItems := isPlain_writeItems (next :: more) wholeRest
      rw [writeItems_cons_cons]
      simp only [List.forall_mem_append, List.forall_mem_cons]
      exact ⟨isItem, by decide, by decide, areItems⟩

/-- Members with whole-number values are written in plain characters. -/
theorem isPlain_writeMembers :
    ∀ (members : List (String × Json)), haveWhole members = true →
    ∀ character ∈ writeMembers spaced members, IsPlain character
  | [], _ => by
      simp [writeMembers]
  | (key, value) :: others, whole => by
      obtain ⟨wholeValue, wholeRest⟩ :
          isWhole value = true ∧ haveWhole others = true := by
        simpa only [haveWhole, Bool.and_eq_true] using whole
      have isKey := isPlain_writeString key
      have isValue := isPlain_write value wholeValue
      have isMember :
          ∀ character ∈ writeMembers spaced [(key, value)], IsPlain character := by
        simp only [writeMembers, List.forall_mem_append]
        exact ⟨⟨isKey, isPlain_of_all rfl⟩, isValue⟩
      cases others with
      | nil =>
          exact isMember
      | cons next more =>
          have areMembers := isPlain_writeMembers (next :: more) wholeRest
          rw [writeMembers_cons_cons]
          simp only [List.forall_mem_append, List.forall_mem_cons]
          exact ⟨isMember, by decide, by decide, areMembers⟩

end

/--
The document of a value whose numbers are whole is one line of printable ASCII.
-/
theorem isPlain_document
    {value : Json}
    (whole : isWhole value = true) :
    ∀ character ∈ value.document.toList, IsPlain character := by
  rw [document, String.toList_ofList]
  exact isPlain_write value whole

end PolicyReconciler.Json
