import Mathlib.Data.List.Chain
import PolicyReconciler.Json.Reader
import PolicyReconciler.Json.Writer

namespace PolicyReconciler.Json

/-!
# Strings read back as they were written

Every code point is written in printable ASCII, by itself or as an escape, and one
reading step takes exactly the written form of a code point.  So a string is read
back code point for code point, whatever stands behind it.  This holds of surrogates
too, as long as no two of them make a pair, for a pair is read as the one code point
that it stands for.  No character is a surrogate, so strings are always read back.
-/

/-- Whether a character is one of the printable characters of ASCII. -/
def IsPlain (character : Char) : Prop :=
  0x20 ≤ character.toNat ∧ character.toNat ≤ 0x7E

instance (character : Char) : Decidable (IsPlain character) :=
  inferInstanceAs (Decidable (_ ∧ _))

/-- Plainness of a closed text can be computed. -/
theorem isPlain_of_all
    {text : List Char}
    (all : text.all (fun character => decide (IsPlain character)) = true) :
    ∀ character ∈ text, IsPlain character :=
  fun character inside =>
    of_decide_eq_true (List.all_eq_true.mp all character inside)

/-! ## Escapes -/

/-- A hexadecimal digit is read back. -/
theorem hexValue?_hexDigit :
    ∀ value < 16, hexValue? (hexDigit value) = some value := by
  decide

theorem isPlain_hexDigit :
    ∀ value < 16, IsPlain (hexDigit value) := by
  decide

/-- Four hexadecimal digits are read back as the unit they write. -/
theorem readUnit?_hexUnit
    {unit : Nat}
    (short : unit < 0x10000)
    (rest : List Char) :
    readUnit? (hexUnit unit ++ rest) = some (unit, rest) := by
  have high := hexValue?_hexDigit (unit / 4096 % 16) (by omega)
  have upper := hexValue?_hexDigit (unit / 256 % 16) (by omega)
  have lower := hexValue?_hexDigit (unit / 16 % 16) (by omega)
  have low := hexValue?_hexDigit (unit % 16) (by omega)
  have whole : unit / 4096 % 16 * 4096 + unit / 256 % 16 * 256 + unit / 16 % 16 *
      16 + unit % 16 =
      unit := by
    omega
  simp [readUnit?, hexUnit, high, upper, lower, low, whole]

/-- An escape is plain. -/
theorem isPlain_escapeUnit
    (unit : Nat) :
    ∀ character ∈ escapeUnit unit, IsPlain character := by
  intro character inside
  simp only [escapeUnit, hexUnit, List.mem_cons, List.not_mem_nil, or_false]
    at inside
  rcases inside with rfl | rfl | rfl | rfl | rfl | rfl
  · decide
  · decide
  all_goals exact isPlain_hexDigit _ (by omega)

/-! ## Surrogates -/

/-- Whether two code points, next to each other, are read as one. -/
def ArePaired (first second : Nat) : Prop :=
  isHighSurrogate first = true ∧ isLowSurrogate second = true

/-- Whether a text does not go on with the escape of a low surrogate. -/
def Unpaired (text : List Char) : Prop :=
  ∀ more, text = '\\' :: 'u' :: more →
    ∃ unit others, readUnit? more = some (unit, others) ∧
      isLowSurrogate unit = false

/-- A text that begins with no escape mark begins with no surrogate. -/
theorem unpaired_of_ne
    {first : Char}
    (noEscape : first ≠ '\\')
    (rest : List Char) :
    Unpaired (first :: rest) := by
  intro more same
  injection same with isEscape
  exact absurd isEscape noEscape

/--
The escape of a unit is not read as the second half of a pair, unless it is one.
-/
theorem unpaired_escapeUnit
    {unit : Nat}
    (short : unit < 0x10000)
    (other : isLowSurrogate unit = false)
    (rest : List Char) :
    Unpaired (escapeUnit unit ++ rest) := by
  intro more same
  simp only [escapeUnit, List.cons_append, List.cons.injEq, true_and] at same
  exact ⟨unit, rest, by rw [← same, readUnit?_hexUnit short], other⟩

/-- A code point of the first plane is read back from its escape. -/
theorem readCode?_escapeUnit
    {code : Nat}
    {rest : List Char}
    (first : code < 0x10000)
    (alone : isHighSurrogate code = true → Unpaired rest) :
    readCode? (escapeUnit code ++ rest) = some (code, rest) := by
  change readEscapedCode? (hexUnit code ++ rest) = _
  unfold readEscapedCode?
  rw [readUnit?_hexUnit first]
  dsimp only
  by_cases high : isHighSurrogate code = true
  · rw [if_pos high]
    split
    · rename_i more
      obtain ⟨unit, others, isUnit, other⟩ := alone high more rfl
      rw [isUnit]
      simp [other]
    · rfl
  · rw [if_neg high]

/--
Two surrogates that make a pair are read as the code point that they stand for.
-/
theorem readCode?_pair
    {first second : Nat}
    (paired : ArePaired first second)
    (rest : List Char) :
    readCode? (escapeUnit first ++ (escapeUnit second ++ rest)) =
      some (0x10000 + (first - 0xD800) * 0x400 + (second - 0xDC00), rest) := by
  obtain ⟨high, low⟩ := paired
  have firstBound := high
  have secondBound := low
  simp only [isHighSurrogate, Bool.and_eq_true, decide_eq_true_eq] at firstBound
  simp only [isLowSurrogate, Bool.and_eq_true, decide_eq_true_eq] at secondBound
  change readEscapedCode?
    (hexUnit first ++ '\\' :: 'u' :: (hexUnit second ++ rest)) = _
  unfold readEscapedCode?
  rw [readUnit?_hexUnit (by omega)]
  simp only [high, if_true]
  rw [readUnit?_hexUnit (by omega)]
  simp only [low, if_true]

/-- The two units that stand for a code point beyond the first plane make a pair. -/
theorem paired_units
    {code : Nat}
    (beyond : 0x10000 ≤ code)
    (bound : code < 0x110000) :
    ArePaired (0xD800 + (code - 0x10000) / 0x400)
      (0xDC00 + (code - 0x10000) % 0x400) := by
  constructor
  · simp only [isHighSurrogate, Bool.and_eq_true, decide_eq_true_eq]
    omega
  · simp only [isLowSurrogate, Bool.and_eq_true, decide_eq_true_eq]
    omega

/-! ## Code points -/

/-- A character that needs no escape is written by itself. -/
theorem readCode?_self
    {character : Char}
    (plain : 0x20 ≤ character.toNat)
    (noQuote : character ≠ '"')
    (noEscape : character ≠ '\\')
    (rest : List Char) :
    readCode? (character :: rest) = some (character.toNat, rest) := by
  unfold readCode?
  split
  · rename_i same
    injection same with isEscape
    exact absurd isEscape noEscape
  · rename_i same
    injection same with isEscape
    exact absurd isEscape noEscape
  · rename_i same
    injection same with isFirst isRest
    subst isFirst isRest
    simp [noQuote, noEscape, Nat.not_lt.mpr plain]
  · rename_i same
    cases same

/-- The ways in which a code point is written. -/
inductive Written : Nat → List Char → Prop
  | short {letter character : Char}
      (plain : IsPlain letter)
      (other : letter ≠ 'u')
      (escape : shortEscape? letter = some character) :
      Written character.toNat ['\\', letter]
  | itself {character : Char}
      (plain : IsPlain character)
      (noQuote : character ≠ '"')
      (noEscape : character ≠ '\\') :
      Written character.toNat [character]
  | unit {code : Nat}
      (first : code < 0x10000) :
      Written code (escapeUnit code)
  | surrogates {code : Nat}
      (beyond : 0x10000 ≤ code)
      (bound : code < 0x110000) :
      Written code
        (escapeUnit (0xD800 + (code - 0x10000) / 0x400) ++
          escapeUnit (0xDC00 + (code - 0x10000) % 0x400))

/-- Every code point is written in one of the forms. -/
theorem written_writeCode
    {code : Nat}
    (bound : code < 0x110000) :
    Written code (writeCode code) := by
  unfold writeCode
  iterate 7
    split
    · subst code
      exact .short (by decide) (by decide) rfl
  split
  · rename_i noQuote noEscape _ _ _ _ _ plain
    rw [Bool.and_eq_true, decide_eq_true_eq, decide_eq_true_eq] at plain
    have number : (Char.ofNat code).toNat = code := by
      rw [Char.ofNat, dif_pos (.inl (by omega))]
      rfl
    have form : Written (Char.ofNat code).toNat [Char.ofNat code] := by
      refine .itself (by rwa [IsPlain, number]) ?_ ?_
      · intro same
        exact noQuote (by rw [← number, same])
      · intro same
        exact noEscape (by rw [← number, same])
    rwa [number] at form
  split
  · rename_i first
    exact .unit first
  · rename_i beyond
    exact .surrogates (Nat.not_lt.mp beyond) bound

namespace Written

variable {code : Nat}
variable {written : List Char}

/--
One reading step takes what was written for a code point, and leaves the rest.
-/
theorem read
    {rest : List Char}
    (form : Written code written)
    (alone : isHighSurrogate code = true → Unpaired rest) :
    readCode? (written ++ rest) = some (code, rest) := by
  cases form with
  | short plain other escape =>
      simp [readCode?, escape]
  | itself plain noQuote noEscape =>
      exact readCode?_self plain.1 noQuote noEscape rest
  | unit first =>
      exact readCode?_escapeUnit first alone
  | surrogates beyond bound =>
      have whole : 0x10000 + (0xD800 + (code - 0x10000) / 0x400 - 0xD800) * 0x400 +
          (0xDC00 + (code - 0x10000) % 0x400 - 0xDC00) = code := by
        omega
      rw [List.append_assoc, readCode?_pair (paired_units beyond bound), whole]

/--
What is written for a code point is no second half of a pair, unless it is one.
-/
theorem unpaired
    (form : Written code written)
    (other : isLowSurrogate code = false)
    (rest : List Char) :
    Unpaired (written ++ rest) := by
  cases form with
  | short plain different =>
      rintro more ⟨⟩
      exact absurd rfl different
  | itself _ _ noEscape =>
      exact unpaired_of_ne noEscape rest
  | unit first =>
      exact unpaired_escapeUnit first other rest
  | surrogates beyond bound =>
      rw [List.append_assoc]
      apply unpaired_escapeUnit
      · omega
      · simp only [isLowSurrogate, Bool.and_eq_false_iff, decide_eq_false_iff_not]
        omega

/-- All forms are plain. -/
theorem isPlain
    (form : Written code written) :
    ∀ sign ∈ written, IsPlain sign := by
  cases form with
  | short plain =>
      exact List.forall_mem_cons.mpr
        ⟨by decide, List.forall_mem_singleton.mpr plain⟩
  | itself plain =>
      exact List.forall_mem_singleton.mpr plain
  | unit =>
      exact isPlain_escapeUnit _
  | surrogates =>
      exact List.forall_mem_append.mpr ⟨isPlain_escapeUnit _, isPlain_escapeUnit _⟩

/-- The written form of a code point is not mistaken for the end of a string. -/
theorem exists_first
    (form : Written code written) :
    ∃ first others, written = first :: others ∧ first ≠ '"' := by
  cases form with
  | itself _ noQuote =>
      exact ⟨_, [], rfl, noQuote⟩
  | short | unit | surrogates =>
      exact ⟨'\\', _, rfl, by decide⟩

end Written

/-! ## Texts -/

/-- Whether a number is a code point: that of a character, or a surrogate. -/
def IsCode (code : Nat) : Prop :=
  code < 0x110000

/--
Code points, of which no two make a pair of surrogates, are read back in their
order.
-/
theorem readCodes?_write
    {codes : List Nat}
    (rest : List Char)
    (areCodes : ∀ code ∈ codes, IsCode code)
    (apart : codes.IsChain fun first second => ¬ ArePaired first second)
    {steps : Nat}
    (enough : codes.length < steps) :
    readCodes? steps (codes.flatMap writeCode ++ '"' :: rest) =
      some (codes, rest) := by
  induction codes generalizing steps with
  | nil =>
      obtain ⟨further, rfl⟩ :=
        Nat.exists_eq_add_one_of_ne_zero (Nat.ne_of_gt enough)
      rfl
  | cons code others inductionHypothesis =>
      obtain ⟨further, rfl⟩ :=
        Nat.exists_eq_add_one_of_ne_zero (Nat.ne_of_gt (Nat.zero_lt_of_lt enough))
      obtain ⟨isCode, areOthers⟩ := List.forall_mem_cons.mp areCodes
      have onward :=
        inductionHypothesis areOthers apart.tail (Nat.lt_of_succ_lt_succ enough)
      have alone : isHighSurrogate code = true →
          Unpaired (others.flatMap writeCode ++ '"' :: rest) := by
        intro high
        cases others with
        | nil =>
            exact unpaired_of_ne (by decide) rest
        | cons next later =>
            have other : isLowSurrogate next = false :=
              eq_false_of_ne_true fun low => apart.rel ⟨high, low⟩
            rw [List.flatMap_cons, List.append_assoc]
            exact (written_writeCode (areOthers next List.mem_cons_self)).unpaired
              other _
      have form := written_writeCode isCode
      have isRead := form.read alone
      obtain ⟨first, written, shape, noQuote⟩ := form.exists_first
      rw [List.flatMap_cons, List.append_assoc]
      rw [shape, List.cons_append] at isRead ⊢
      -- what is read first is no quote, so the string goes on
      unfold readCodes?
      split
      · contradiction
      · rename_i same
        injection same with isQuote
        exact absurd isQuote noQuote
      · rename_i isSteps _
        cases isSteps
        rw [isRead]
        dsimp only
        rw [onward]

/-- The code of a character is a code point. -/
theorem isCode_toNat (character : Char) : IsCode character.toNat := by
  have valid : character.toNat < 0xD800 ∨
      (0xDFFF < character.toNat ∧ character.toNat < 0x110000) := character.valid
  rw [IsCode]
  omega

/-- No character is a surrogate. -/
theorem isHighSurrogate_toNat (character : Char) :
    isHighSurrogate character.toNat = false := by
  have valid : character.toNat < 0xD800 ∨
      (0xDFFF < character.toNat ∧ character.toNat < 0x110000) := character.valid
  simp only [isHighSurrogate, Bool.and_eq_false_iff, decide_eq_false_iff_not]
  omega

/-- The codes of characters are taken back to the characters. -/
theorem mapM_character? (characters : List Char) :
    (characters.map Char.toNat).mapM character? = some characters := by
  induction characters with
  | nil =>
      rfl
  | cons character others inductionHypothesis =>
      have valid : character.toNat.isValidChar := character.valid
      have itself : character? character.toNat = some character := by
        rw [character?, if_pos valid, Char.ofNat_toNat]
      simp [List.mapM_cons, itself, inductionHypothesis]

/-- Writing shortens no text. -/
theorem length_le_flatMap_writeCharacter (characters : List Char) :
    characters.length ≤ (characters.flatMap writeCharacter).length := by
  induction characters with
  | nil =>
      exact Nat.le_refl 0
  | cons character others inductionHypothesis =>
      obtain ⟨first, written, shape, _⟩ :=
        (written_writeCode (isCode_toNat character)).exists_first
      simp only [List.flatMap_cons, writeCharacter, shape, List.length_append,
        List.length_cons] at inductionHypothesis ⊢
      omega

/-- A string is read back whose first quote has been read. -/
theorem readString?_write (text : String) (rest : List Char) :
    readString? (text.toList.flatMap writeCharacter ++ '"' :: rest) =
      some (text, rest) := by
  have written : text.toList.flatMap writeCharacter =
      (text.toList.map Char.toNat).flatMap writeCode := by
    rw [List.flatMap_map]
    rfl
  have areCodes : ∀ code ∈ text.toList.map Char.toNat, IsCode code := by
    intro code inside
    obtain ⟨character, _, rfl⟩ := List.mem_map.mp inside
    exact isCode_toNat character
  have apart : (text.toList.map Char.toNat).IsChain fun first second =>
      ¬ ArePaired first second := by
    refine (List.isChain_map _).mpr
      (List.pairwise_of_forall fun first second => ?_).isChain
    rintro ⟨high, _⟩
    rw [isHighSurrogate_toNat] at high
    cases high
  have short := length_le_flatMap_writeCharacter text.toList
  unfold readString?
  rw [written, readCodes?_write rest areCodes apart]
  · dsimp only
    rw [mapM_character?, Option.map_some, String.ofList_toList]
  · rw [← written]
    simp only [List.length_append, List.length_cons, List.length_map]
    omega

/-- A written string is plain. -/
theorem isPlain_writeString (text : String) :
    ∀ character ∈ writeString text, IsPlain character := by
  intro character inside
  simp only [writeString, List.mem_cons, List.mem_append, List.mem_flatMap,
    List.not_mem_nil, or_false] at inside
  rcases inside with (rfl | ⟨written, _, inside⟩) | rfl
  · decide
  · exact (written_writeCode (isCode_toNat written)).isPlain character inside
  · decide

end PolicyReconciler.Json
