import WasmSandbox.Json.Printer
import WasmSandbox.Json.Reader

/-!
Contract: the compact text of a document is read as that document.

Owns:
- the documents that have a text: no text in them is missing, and fractions are digits;
- that each escape is read as the character for which it was written;
- that a numeral is read whole, before anything that does not go on with it;
- the round trip of documents, by induction over documents, items and members.

Reading spends fuel on each document and on each item or member, and both have a text, so
twice the length of the text is enough.

Does not own: which documents stand for a value.
-/

namespace WasmSandbox.Json

/-! ## String literals -/

theorem hexValue?_hexDigit : ∀ value < 16, hexValue? (hexDigit value) = some value := by
  decide

/-- A control character is read from the four digits of its number. -/
theorem hexQuad?_control {code : Nat} (control : code < 32) :
    hexQuad? '0' '0' (hexDigit (code / 16)) (hexDigit (code % 16)) = some code := by
  have zero : hexValue? '0' = some 0 := rfl
  have high := hexValue?_hexDigit (code / 16) (by omega)
  have low := hexValue?_hexDigit (code % 16) (by omega)
  rw [hexQuad?, zero, high, low]
  show some (0 * 4096 + 0 * 256 + code / 16 * 16 + code % 16) = some code
  congr 1
  omega

/-- An escape by number that is no half of a surrogate pair is read as its character,
whatever follows. -/
theorem readText_unicode {a b c d : Char} {unit : Nat} (quad : hexQuad? a b c d = some unit)
    (notLeading : isLeadingHalf unit = false) (notTrailing : isTrailingHalf unit = false)
    (content : Option (List Char)) (rest : List Char) :
    readText content ('\\' :: 'u' :: a :: b :: c :: d :: rest) =
      readText (content.map fun chars => Char.ofNat unit :: chars) rest := by
  -- The reader looks at a second escape that may follow, for the other half of a pair.
  by_cases second : ∃ e f g h tail, rest = '\\' :: 'u' :: e :: f :: g :: h :: tail
  · obtain ⟨e, f, g, h, tail, rfl⟩ := second
    rw [readText.eq_2, quad]
    simp only [notLeading, notTrailing, Bool.false_eq_true, if_false]
  · rw [readText.eq_3 _ _ _ _ _ _ fun e f g h tail isSecond => second ⟨e, f, g, h, tail, isSecond⟩,
      quad]
    simp only [notLeading, notTrailing, Bool.or_self, Bool.false_eq_true, if_false]

/-- A one-letter escape is read as its character. -/
theorem readText_short {mark plain : Char} (short : shortEscape? mark = some plain)
    (content : Option (List Char)) (rest : List Char) :
    readText content ('\\' :: mark :: rest) =
      readText (content.map fun chars => plain :: chars) rest := by
  have notUnicode : mark ≠ 'u' := by
    rintro rfl
    contradiction
  rw [readText.eq_4 _ _ _ (fun _ _ _ _ _ _ _ _ _ isUnicode _ => notUnicode isUnicode)
    (fun _ _ _ _ _ isUnicode _ => notUnicode isUnicode), short]

/-- A character that needs no escape is read as itself. -/
theorem readText_plain {c : Char} (notQuote : c ≠ '"') (notEscape : c ≠ '\\')
    (printable : ¬c.toNat < 32) (content : Option (List Char)) (rest : List Char) :
    readText content (c :: rest) = readText (content.map fun chars => c :: chars) rest := by
  rw [readText.eq_5 _ _ _ notQuote (fun _ _ _ _ _ _ _ _ _ isEscape _ => notEscape isEscape)
    (fun _ _ _ _ _ isEscape _ => notEscape isEscape)
    (fun _ _ isEscape _ => notEscape isEscape)]
  simp [notEscape, printable]

/-- Whichever way a character is written, it is read back. -/
theorem readText_escape (c : Char) (chars rest : List Char) :
    readText (some chars) (escape c ++ rest) = readText (some (c :: chars)) rest := by
  unfold escape
  split
  case h_8 =>
    split
    · rename_i control
      have notLeading : isLeadingHalf c.toNat = false := by
        simp only [isLeadingHalf, Bool.and_eq_false_iff, decide_eq_false_iff_not]
        omega
      have notTrailing : isTrailingHalf c.toNat = false := by
        simp only [isTrailingHalf, Bool.and_eq_false_iff, decide_eq_false_iff_not]
        omega
      have read := readText_unicode (hexQuad?_control control) notLeading notTrailing (some chars)
        rest
      rw [Char.ofNat_toNat] at read
      exact read
    · rename_i notQuote notEscape _ _ _ _ _ printable
      exact readText_plain notQuote notEscape printable (some chars) rest
  all_goals exact readText_short rfl (some chars) rest

/-- A string literal is read up to its closing quote, after what was read before. -/
theorem readText_escapes (content chars rest : List Char) :
    readText (some chars) (content.flatMap escape ++ '"' :: rest) =
      some (some (String.ofList (chars.reverse ++ content)), rest) := by
  induction content generalizing chars with
  | nil => simp [readText.eq_1]
  | cons c content inductionHypothesis =>
      rw [List.flatMap_cons, List.append_assoc, readText_escape, inductionHypothesis]
      simp

theorem readText_quote (content : String) (rest : List Char) :
    readText (some []) (content.toList.flatMap escape ++ '"' :: rest) =
      some (some content, rest) := by
  rw [readText_escapes, List.reverse_nil, List.nil_append, String.ofList_toList]

/-! ## Numerals -/

/-- Digits are taken up to what is none. -/
theorem takeDigits_append {digits rest : List Char} (allDigits : ∀ c ∈ digits, c.isDigit)
    (stops : ∀ c ∈ rest.head?, c.isDigit = false) :
    takeDigits (digits ++ rest) = (digits, rest) := by
  have stopsAtOnce : rest.takeWhile Char.isDigit = [] ∧ rest.dropWhile Char.isDigit = rest := by
    cases rest with
    | nil => exact ⟨rfl, rfl⟩
    | cons c rest =>
        have notDigit := stops c rfl
        simp [notDigit]
  rw [takeDigits, List.takeWhile_append_of_pos allDigits, List.dropWhile_append_of_pos allDigits,
    stopsAtOnce.1, stopsAtOnce.2, List.append_nil]

theorem toDigits_isDigit (value : Nat) : ∀ c ∈ Nat.toDigits 10 value, c.isDigit :=
  fun _ => Nat.isDigit_of_mem_toDigits (by decide) (by decide)

/-- The digits of a number have a first one. -/
theorem exists_toDigits_cons (value : Nat) :
    ∃ digit digits, Nat.toDigits 10 value = digit :: digits ∧ digit.isDigit := by
  obtain ⟨digit, digits, isCons⟩ :=
    List.exists_cons_of_ne_nil (Nat.toDigits_ne_nil (b := 10) (n := value))
  refine ⟨digit, digits, isCons, toDigits_isDigit value digit ?_⟩
  rw [isCons]
  exact List.mem_cons_self ..

/-- A number other than zero is not written with a zero in front. -/
theorem toDigits_head_ne_zero (value : Nat) (positive : 0 < value) :
    (Nat.toDigits 10 value).head? ≠ some '0' := by
  by_cases small : value < 10
  · rw [Nat.toDigits_of_lt_base small]
    intro isZero
    have digit : ∀ value < 10, 0 < value → Nat.digitChar value ≠ '0' := by decide
    exact digit value small positive (Option.some.inj isZero)
  · have shorter := toDigits_head_ne_zero (value / 10) (by omega)
    obtain ⟨digit, digits, isCons, -⟩ := exists_toDigits_cons (value / 10)
    rw [isCons] at shorter
    rw [Nat.toDigits_of_base_le (by decide) (by omega), isCons]
    exact shorter
termination_by value
decreasing_by omega

/-- A number is written without a superfluous zero in front. -/
theorem toDigits_canonical (value : Nat) :
    (decide ((Nat.toDigits 10 value).head? = some '0') &&
      decide ((Nat.toDigits 10 value).length > 1)) = false := by
  rcases Nat.eq_zero_or_pos value with rfl | positive
  · rfl
  · simp [toDigits_head_ne_zero value positive]

/-- What does not go on with a numeral that stands before it. -/
def EndsNumeral (rest : List Char) : Prop :=
  ∀ c ∈ rest.head?, c.isDigit = false ∧ c ≠ '.' ∧ c ≠ 'e' ∧ c ≠ 'E'

def fractionText (fraction : List Char) : List Char :=
  if fraction.isEmpty then [] else '.' :: fraction

def exponentText : Option Int → List Char
  | some exponent => 'e' :: intText exponent
  | none => []

theorem numeralText_eq (numeral : Numeral) :
    numeralText numeral = (if numeral.negative then ['-'] else []) ++
      (Nat.toDigits 10 numeral.whole ++
        (fractionText numeral.fraction ++ exponentText numeral.exponent)) := by
  simp only [numeralText, fractionText, List.append_assoc]
  cases numeral.exponent <;> rfl

/-- The sign and the digits of an exponent are read back. -/
theorem readExponent_some (exponent : Int) {rest : List Char} (ends : EndsNumeral rest) :
    readExponent ('e' :: (intText exponent ++ rest)) = some (some exponent, rest) := by
  obtain ⟨digit, digits, isCons, isDigit⟩ := exists_toDigits_cons exponent.natAbs
  have taken : takeDigits (Nat.toDigits 10 exponent.natAbs ++ rest) =
      (Nat.toDigits 10 exponent.natAbs, rest) :=
    takeDigits_append (toDigits_isDigit _) fun c isHead => (ends c isHead).1
  have size : Nat.ofDigitChars 10 (Nat.toDigits 10 exponent.natAbs) 0 = exponent.natAbs :=
    Nat.ofDigitChars_ten_toDigits
  have notEmpty : (Nat.toDigits 10 exponent.natAbs).isEmpty = false := by
    rw [isCons]
    rfl
  unfold intText
  split
  · rename_i isNegative
    simp only [List.cons_append, readExponent, decide_true, Bool.true_or, if_true, taken,
      notEmpty, size, Bool.false_eq_true, if_false, Option.some.injEq, Prod.mk.injEq, and_true]
    omega
  · rename_i notNegative
    -- The first character is a digit, and so no sign.
    have noSign : digit ≠ '-' ∧ digit ≠ '+' :=
      ⟨by rintro rfl; contradiction, by rintro rfl; contradiction⟩
    rw [isCons, List.cons_append] at taken
    rw [isCons] at size ⊢
    simp only [List.cons_append, readExponent, decide_true, Bool.true_or, if_true]
    split
    · rename_i isSign
      exact absurd (List.cons.inj isSign).1 noSign.1
    · rename_i isSign
      exact absurd (List.cons.inj isSign).1 noSign.2
    · simp only [taken, List.isEmpty_cons, size, Bool.false_eq_true, if_false,
        Option.some.injEq, Prod.mk.injEq, and_true]
      omega

/-- An exponent is read back, if there is one. -/
theorem readExponent_exponentText (exponent : Option Int) {rest : List Char}
    (ends : EndsNumeral rest) :
    readExponent (exponentText exponent ++ rest) = some (exponent, rest) := by
  cases exponent with
  | some exponent => exact readExponent_some exponent ends
  | none =>
      cases rest with
      | nil => rfl
      | cons c rest =>
          obtain ⟨-, -, notLower, notUpper⟩ := ends c rfl
          simp [exponentText, readExponent, notLower, notUpper]

/-- What follows a fraction does not go on with its digits. -/
theorem exponentText_stops (exponent : Option Int) {rest : List Char} (ends : EndsNumeral rest) :
    ∀ c ∈ (exponentText exponent ++ rest).head?, c.isDigit = false ∧ c ≠ '.' := by
  cases exponent with
  | some exponent =>
      intro c isHead
      cases isHead
      exact ⟨rfl, by decide⟩
  | none => exact fun c isHead => ⟨(ends c isHead).1, (ends c isHead).2.1⟩

theorem readFraction_fractionText {fraction : List Char} (digits : ∀ c ∈ fraction, c.isDigit)
    {rest : List Char} (stops : ∀ c ∈ rest.head?, c.isDigit = false ∧ c ≠ '.') :
    readFraction (fractionText fraction ++ rest) = some (fraction, rest) := by
  cases fraction with
  | nil =>
      unfold readFraction
      split
      · rename_i isPoint
        exact absurd rfl (stops '.' (by rw [show rest = _ from isPoint]; rfl)).2
      · rfl
  | cons digit fraction =>
      have taken := takeDigits_append digits fun c isHead => (stops c isHead).1
      rw [List.cons_append] at taken
      simp [fractionText, readFraction, taken]

/-- What follows the digits of an integer part does not go on with them. -/
theorem fractionText_stops (fraction : List Char) {rest : List Char}
    (stops : ∀ c ∈ rest.head?, c.isDigit = false ∧ c ≠ '.') :
    ∀ c ∈ (fractionText fraction ++ rest).head?, c.isDigit = false := by
  cases fraction with
  | nil => exact fun c isHead => (stops c isHead).1
  | cons digit fraction =>
      intro c isHead
      cases isHead
      rfl

theorem readMagnitude_text (numeral : Numeral) (digits : ∀ c ∈ numeral.fraction, c.isDigit)
    {rest : List Char} (ends : EndsNumeral rest) :
    readMagnitude numeral.negative (Nat.toDigits 10 numeral.whole ++
      (fractionText numeral.fraction ++ (exponentText numeral.exponent ++ rest))) =
        some (numeral, rest) := by
  have afterFraction := exponentText_stops numeral.exponent ends
  have taken := takeDigits_append (toDigits_isDigit numeral.whole)
    (fractionText_stops numeral.fraction afterFraction)
  have notEmpty : (Nat.toDigits 10 numeral.whole).isEmpty = false := by
    obtain ⟨digit, digits, isCons, -⟩ := exists_toDigits_cons numeral.whole
    rw [isCons]
    rfl
  simp only [readMagnitude, taken, notEmpty, toDigits_canonical, Bool.or_self,
    Bool.false_eq_true, if_false, readFraction_fractionText digits afterFraction,
    Nat.ofDigitChars_ten_toDigits, Option.bind_eq_bind, Option.bind_some,
    readExponent_exponentText numeral.exponent ends]
  rfl

/-- A numeral is read back. -/
theorem readNumeral_numeralText (numeral : Numeral) (digits : ∀ c ∈ numeral.fraction, c.isDigit)
    {rest : List Char} (ends : EndsNumeral rest) :
    readNumeral (numeralText numeral ++ rest) = some (numeral, rest) := by
  have magnitude := readMagnitude_text numeral digits ends
  rw [numeralText_eq]
  simp only [List.append_assoc]
  cases isNegative : numeral.negative with
  | true =>
      rw [isNegative] at magnitude
      exact magnitude
  | false =>
      rw [isNegative] at magnitude
      obtain ⟨digit, digits, isCons, isDigit⟩ := exists_toDigits_cons numeral.whole
      rw [isCons] at magnitude ⊢
      simp only [Bool.false_eq_true, if_false, List.nil_append, List.cons_append] at magnitude ⊢
      unfold readNumeral
      split
      · rename_i isSign
        cases isSign
        contradiction
      · exact magnitude

/-- A numeral begins with a sign or a digit. -/
theorem exists_numeralText_cons (numeral : Numeral) :
    ∃ first rest, numeralText numeral = first :: rest ∧ (first = '-' ∨ first.isDigit) := by
  rw [numeralText_eq]
  cases numeral.negative with
  | true => exact ⟨_, _, rfl, .inl rfl⟩
  | false =>
      obtain ⟨digit, digits, isCons, isDigit⟩ := exists_toDigits_cons numeral.whole
      rw [isCons]
      exact ⟨_, _, rfl, .inr isDigit⟩

/-! ## Documents -/

mutual

/-- A document that can be written: no text is missing, and fractions have digits only. -/
def HasText : Json → Prop
  | .number numeral => ∀ c ∈ numeral.fraction, c.isDigit
  | .text content => content.isSome
  | .array items => ItemsHaveText items
  | .object members => MembersHaveText members
  | _ => True

/-- All items can be written. -/
def ItemsHaveText : List Json → Prop
  | [] => True
  | item :: items => HasText item ∧ ItemsHaveText items

/-- All members can be written, with their names. -/
def MembersHaveText : List (Option String × Json) → Prop
  | [] => True
  | (name, value) :: members => name.isSome ∧ HasText value ∧ MembersHaveText members

end

/-- A text of a document begins with no blank and with no end of a list. -/
theorem exists_print_cons (document : Json) :
    ∃ first rest, document.print = first :: rest ∧ isBlank first = false ∧ first ≠ ']' := by
  cases document with
  | null => exact ⟨_, _, by rw [print], rfl, by decide⟩
  | bool value =>
      cases value with
      | true => exact ⟨_, _, by rw [print], rfl, by decide⟩
      | false => exact ⟨_, _, by rw [print], rfl, by decide⟩
  | number numeral =>
      obtain ⟨first, rest, isCons, begins⟩ := exists_numeralText_cons numeral
      refine ⟨first, rest, by rw [print, isCons], ?_⟩
      rcases begins with rfl | isDigit
      · exact ⟨rfl, by decide⟩
      · constructor
        · simp only [isBlank, Bool.or_eq_false_iff, decide_eq_false_iff_not]
          refine ⟨⟨⟨?_, ?_⟩, ?_⟩, ?_⟩ <;> (rintro rfl; contradiction)
        · rintro rfl
          contradiction
  | text content => exact ⟨_, _, by rw [print, quote], rfl, by decide⟩
  | array items => exact ⟨_, _, by rw [print], rfl, by decide⟩
  | object members => exact ⟨_, _, by rw [print], rfl, by decide⟩

theorem skipBlanks_cons (first : Char) {rest : List Char} (notBlank : isBlank first = false) :
    skipBlanks (first :: rest) = first :: rest := by
  simp [skipBlanks, notBlank]

theorem printItems_cons (item next : Json) (items : List Json) :
    printItems (item :: next :: items) = item.print ++ ',' :: printItems (next :: items) := by
  rw [printItems]
  simp

theorem printMembers_cons (name : Option String) (value : Json)
    (next : Option String × Json) (members : List (Option String × Json)) :
    printMembers ((name, value) :: next :: members) =
      quote (name.getD "") ++ ':' :: (value.print ++ ',' :: printMembers (next :: members)) := by
  rw [printMembers]
  simp

theorem exists_printItems_cons (item : Json) (items : List Json) :
    ∃ first rest, printItems (item :: items) = first :: rest ∧ isBlank first = false ∧
      first ≠ ']' := by
  obtain ⟨first, rest, isCons, begins⟩ := item.exists_print_cons
  cases items with
  | nil => exact ⟨first, rest, by rw [printItems, isCons], begins⟩
  | cons next items =>
      exact ⟨first, _, by rw [printItems_cons, isCons, List.cons_append], begins⟩

theorem exists_printMembers_cons (name : Option String) (value : Json)
    (members : List (Option String × Json)) :
    ∃ rest, printMembers ((name, value) :: members) = '"' :: rest := by
  cases members with
  | nil => exact ⟨_, by rw [printMembers, quote]; rfl⟩
  | cons next members => exact ⟨_, by rw [printMembers_cons, quote]; rfl⟩

theorem print_length_pos (document : Json) : 0 < document.print.length := by
  obtain ⟨first, rest, isCons, -⟩ := document.exists_print_cons
  simp [isCons]

theorem endsNumeral_cons (c : Char) (rest : List Char)
    (ends : c.isDigit = false ∧ c ≠ '.' ∧ c ≠ 'e' ∧ c ≠ 'E') : EndsNumeral (c :: rest) := by
  intro head isHead
  cases isHead
  exact ends

/-- Where a sign or a digit stands, a numeral is read. -/
theorem readValue_numeral (fuel : Nat) {first : Char} {rest : List Char}
    (begins : first = '-' ∨ first.isDigit) (notBlank : isBlank first = false) :
    readValue (fuel + 1) (first :: rest) =
      match readNumeral (first :: rest) with
      | some (numeral, rest) => some (.number numeral, rest)
      | none => none := by
  rw [readValue, skipBlanks_cons _ notBlank]
  have other {c : Char} (isOther : c ≠ '-' ∧ c.isDigit = false) (tail : List Char) :
      first :: rest ≠ c :: tail := by
    intro same
    rw [(List.cons.inj same).1] at begins
    rcases begins with isSign | isDigit
    · exact isOther.1 isSign
    · simp [isOther.2] at isDigit
  split
  case h_7 => rfl
  all_goals
    rename_i same
    exact absurd same (other (by decide) _)

mutual

-- The induction is on the fuel, of which every call spends one.

/-- A document is read back from its text. -/
theorem readValue_print (document : Json) (written : document.HasText) {fuel : Nat}
    (enough : 2 * document.print.length ≤ fuel) {rest : List Char} (ends : EndsNumeral rest) :
    readValue fuel (document.print ++ rest) = some (document, rest) := by
  have positive := document.print_length_pos
  obtain ⟨fuel, rfl⟩ : ∃ spent, fuel = spent + 1 := ⟨fuel - 1, by omega⟩
  match document with
  | .null => rfl
  | .bool true => rfl
  | .bool false => rfl
  | .number numeral =>
      obtain ⟨first, tail, isCons, notBlank, -⟩ := (Json.number numeral).exists_print_cons
      obtain ⟨_, _, isNumeral, begins⟩ := exists_numeralText_cons numeral
      have read := readNumeral_numeralText numeral written ends
      rw [print] at isCons ⊢
      obtain ⟨rfl, rfl⟩ := List.cons.inj (isNumeral.symm.trans isCons)
      rw [isCons, List.cons_append] at read ⊢
      rw [readValue_numeral fuel begins notBlank, read]
  | .text none => contradiction
  | .text (some content) =>
      rw [print, quote, Option.getD_some, List.cons_append, List.append_assoc, readValue,
        skipBlanks_cons _ rfl]
      simp only [List.cons_append, List.nil_append, readText_quote]
  | .array [] => rfl
  | .array (item :: items) =>
      rw [print, List.length_cons, List.length_append, List.length_singleton] at enough
      have inner : 2 * (printItems (item :: items)).length + 1 ≤ fuel := by omega
      have read := readItems_print item items written inner rest
      obtain ⟨first, tail, isCons, notBlank, notEnd⟩ := exists_printItems_cons item items
      rw [print, List.cons_append, List.append_assoc, readValue, skipBlanks_cons _ rfl]
      rw [isCons] at read ⊢
      simp only [List.cons_append, List.nil_append, skipBlanks_cons _ notBlank]
      rw [List.cons_append] at read
      split
      · rename_i isEnd
        exact absurd (List.cons.inj isEnd).1 notEnd
      · rw [read]
  | .object [] => rfl
  | .object ((name, value) :: members) =>
      rw [print, List.length_cons, List.length_append, List.length_singleton] at enough
      have inner : 2 * (printMembers ((name, value) :: members)).length + 1 ≤ fuel := by omega
      have read := readMembers_print name value members written inner rest
      obtain ⟨tail, isCons⟩ := exists_printMembers_cons name value members
      rw [print, List.cons_append, List.append_assoc, readValue, skipBlanks_cons _ rfl]
      rw [isCons] at read ⊢
      simp only [List.cons_append, List.nil_append, skipBlanks_cons '"' rfl]
      rw [List.cons_append] at read
      split
      · rename_i isEnd
        cases isEnd
      · rw [read]
termination_by fuel

/-- The items of an array are read back, up to the end of the array. -/
theorem readItems_print (item : Json) (items : List Json)
    (written : ItemsHaveText (item :: items)) {fuel : Nat}
    (enough : 2 * (printItems (item :: items)).length + 1 ≤ fuel) (rest : List Char) :
    readItems fuel (printItems (item :: items) ++ ']' :: rest) = some (item :: items, rest) := by
  obtain ⟨fuel, rfl⟩ : ∃ spent, fuel = spent + 1 := ⟨fuel - 1, by omega⟩
  match items with
  | [] =>
      rw [printItems] at enough ⊢
      have inner : 2 * item.print.length ≤ fuel := by omega
      have read := readValue_print item written.1 inner (endsNumeral_cons ']' rest (by decide))
      simp only [readItems, read, skipBlanks_cons ']' rfl]
  | next :: items =>
      rw [printItems_cons, List.length_append, List.length_cons] at enough
      have inner : 2 * item.print.length ≤ fuel := by omega
      have behind : 2 * (printItems (next :: items)).length + 1 ≤ fuel := by omega
      have read := readValue_print item written.1 inner
        (endsNumeral_cons ',' (printItems (next :: items) ++ ']' :: rest) (by decide))
      have others := readItems_print next items written.2 behind rest
      rw [printItems_cons, List.append_assoc, List.cons_append]
      simp only [readItems, read, skipBlanks_cons ',' rfl, others]
termination_by fuel

/-- The members of an object are read back, up to the end of the object. -/
theorem readMembers_print (name : Option String) (value : Json)
    (members : List (Option String × Json)) (written : MembersHaveText ((name, value) :: members))
    {fuel : Nat} (enough : 2 * (printMembers ((name, value) :: members)).length + 1 ≤ fuel)
    (rest : List Char) :
    readMembers fuel (printMembers ((name, value) :: members) ++ '}' :: rest) =
      some ((name, value) :: members, rest) := by
  obtain ⟨fuel, rfl⟩ : ∃ spent, fuel = spent + 1 := ⟨fuel - 1, by omega⟩
  obtain ⟨named, hasText, others⟩ := written
  obtain ⟨name, rfl⟩ := Option.isSome_iff_exists.1 named
  match members with
  | [] =>
      simp only [printMembers, List.length_append, List.length_cons] at enough
      have inner : 2 * value.print.length ≤ fuel := by omega
      have read := readValue_print value hasText inner (endsNumeral_cons '}' rest (by decide))
      rw [printMembers, quote, Option.getD_some]
      simp only [List.cons_append, List.append_assoc, List.nil_append, readMembers,
        skipBlanks_cons '"' rfl, readText_quote,
        skipBlanks_cons ':' rfl, read, skipBlanks_cons '}' rfl]
  | (nextName, nextValue) :: members =>
      simp only [printMembers_cons, List.length_append, List.length_cons] at enough
      have inner : 2 * value.print.length ≤ fuel := by omega
      have behind : 2 * (printMembers ((nextName, nextValue) :: members)).length + 1 ≤ fuel := by
        omega
      have read := readValue_print value hasText inner
        (endsNumeral_cons ',' (printMembers ((nextName, nextValue) :: members) ++ '}' :: rest)
          (by decide))
      have further := readMembers_print nextName nextValue members others behind rest
      rw [printMembers_cons, quote, Option.getD_some]
      simp only [List.cons_append, List.append_assoc, List.nil_append, readMembers,
        skipBlanks_cons '"' rfl, readText_quote,
        skipBlanks_cons ':' rfl, read, skipBlanks_cons ',' rfl,
        further]
termination_by fuel

end

/-- What reading takes from the compact text of a document is that document. -/
theorem read?_compact (document : Json) (written : document.HasText) :
    read? document.compact = some document := by
  have enough : 2 * document.print.length ≤ 2 * document.print.length + 2 := by omega
  have atEnd : EndsNumeral [] := nofun
  have read := readValue_print document written enough atEnd
  rw [List.append_nil] at read
  rw [read?, compact, String.toList_ofList, readChars?, read]
  rfl

end WasmSandbox.Json
