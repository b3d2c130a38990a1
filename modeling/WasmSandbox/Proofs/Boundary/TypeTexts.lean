import WasmSandbox.Boundary.Item
import WasmSandbox.Proofs.Json.RoundTrip

/-!
Contract: what can be read off the text of a type.

Owns:
- prefix-free texts: no text of a family is the beginning of another one, so it can be seen
  where such a text ends and what it is of, whatever is written behind it;
- that names of kinds and lists of kinds are prefix-free, and that a numeral ends before the
  first character that is no digit;
- that signatures, limits, types of globals and types of items differ in their texts.

A type is written as a row of parts.  Each part but the last is prefix-free, or a numeral with
a dot behind it, so equal texts have equal parts, from the left to the right.

Does not own: texts of declared imports, which begin with names that a module is free to choose.
-/

namespace WasmSandbox

/-! ## Prefix-free texts -/

/-- No text is the beginning of the text of anything else. -/
def PrefixFree {α : Type} (write : α → String) : Prop :=
  ∀ first second, (write first).toList <+: (write second).toList → first = second

namespace PrefixFree

variable {α : Type} {write : α → String}

/-- Whatever is written behind them, equal texts have equal parts. -/
theorem append_inj (free : PrefixFree write) {first second : α} {rest more : String}
    (same : write first ++ rest = write second ++ more) : first = second ∧ rest = more := by
  have beginsFirst : (write first).toList <+: (write first ++ rest).toList := by
    rw [String.toList_append]
    exact List.prefix_append _ _
  have beginsSecond : (write second).toList <+: (write first ++ rest).toList := by
    rw [same, String.toList_append]
    exact List.prefix_append _ _
  obtain rfl : first = second := by
    rcases List.prefix_or_prefix_of_prefix beginsFirst beginsSecond with shorter | longer
    · exact free _ _ shorter
    · exact (free _ _ longer).symm
  exact ⟨rfl, (String.append_right_inj _).1 same⟩

/-- It is enough to tell what is written first from any text that begins with it. -/
theorem of_append_inj
    (inj : ∀ first second rest more, write first ++ rest = write second ++ more → first = second) :
    PrefixFree write := by
  rintro first second ⟨rest, same⟩
  refine inj first second (.ofList rest) "" ?_
  rw [← String.toList_inj, String.append_empty, String.toList_append, String.toList_ofList, same]

theorem injective (free : PrefixFree write) : Function.Injective write :=
  fun first second same => free first second (same ▸ List.prefix_refl _)

end PrefixFree

/-! ## Kinds -/

theorem ValueKind.name_prefixFree : PrefixFree ValueKind.name := by
  intro first second
  cases first <;> cases second <;> decide

theorem ItemKind.name_prefixFree : PrefixFree ItemKind.name := by
  intro first second
  cases first <;> cases second <;> decide

/-- What is written after the first kind of a list: the others, and the end of the list. -/
def kindTailText : List ValueKind → String
  | [] => ")"
  | kind :: kinds => ", " ++ (kind.name ++ kindTailText kinds)

theorem kindListText_cons (kind : ValueKind) (kinds : List ValueKind) :
    kindListText (kind :: kinds) = "(" ++ (kind.name ++ kindTailText kinds) := by
  induction kinds generalizing kind with
  | nil => simp [kindListText, kindTailText, String.append_assoc]
  | cons next kinds inductionHypothesis =>
      have shorter := inductionHypothesis next
      simp only [kindListText, List.map_cons, String.append_assoc, String.append_right_inj]
        at shorter
      simp only [kindListText, kindTailText, List.map_cons, String.intercalate_cons_cons,
        String.append_assoc, shorter]

/-- Where the list ends there is a parenthesis, and where it goes on there is a comma. -/
theorem kindTailText_prefixFree : PrefixFree kindTailText := by
  refine .of_append_inj fun first => ?_
  -- The rest behind both lists changes with each kind that is cancelled.
  induction first with
  | nil =>
      intro second rest more same
      cases second with
      | nil => rfl
      | cons kind kinds => simpa [kindTailText] using congrArg String.toList same
  | cons kind kinds inductionHypothesis =>
      intro second rest more same
      cases second with
      | nil => simpa [kindTailText] using congrArg String.toList same
      | cons other others =>
          simp only [kindTailText, String.append_assoc, String.append_right_inj] at same
          obtain ⟨sameKind, sameTail⟩ := ValueKind.name_prefixFree.append_inj same
          rw [sameKind, inductionHypothesis _ _ _ sameTail]

/-- Behind the first parenthesis an empty list ends, and another one goes on with a letter. -/
theorem kindListText_nil_append_ne (kind : ValueKind) (kinds : List ValueKind)
    (rest more : String) : kindListText [] ++ rest ≠ kindListText (kind :: kinds) ++ more := by
  intro same
  rw [kindListText_cons] at same
  have sameChars := congrArg String.toList same
  cases kind <;> simp [kindListText, ValueKind.name] at sameChars

theorem kindListText_prefixFree : PrefixFree kindListText := by
  refine .of_append_inj fun first second rest more same => ?_
  cases first with
  | nil =>
      cases second with
      | nil => rfl
      | cons other others => exact absurd same (kindListText_nil_append_ne _ _ _ _)
  | cons kind kinds =>
      cases second with
      | nil => exact absurd same.symm (kindListText_nil_append_ne _ _ _ _)
      | cons other others =>
          simp only [kindListText_cons, String.append_assoc, String.append_right_inj] at same
          obtain ⟨sameKind, sameTail⟩ := ValueKind.name_prefixFree.append_inj same
          rw [sameKind, (kindTailText_prefixFree.append_inj sameTail).1]

/-! ## Numerals -/

/-- A numeral ends before the first character that is no digit. -/
theorem numeral_append_inj {first second : UInt64} {rest more : String}
    (ends : ∀ c ∈ rest.toList.head?, c.isDigit = false)
    (alsoEnds : ∀ c ∈ more.toList.head?, c.isDigit = false)
    (same : toString first ++ rest = toString second ++ more) : first = second ∧ rest = more := by
  have digits (number : UInt64) : (toString number).toList = Nat.toDigits 10 number.toNat :=
    Nat.toList_repr
  have sameChars := congrArg String.toList same
  simp only [String.toList_append, digits] at sameChars
  -- Numerals are not prefix-free, so what follows has to show where the digits end.
  have taken := congrArg Json.takeDigits sameChars
  rw [Json.takeDigits_append (Json.toDigits_isDigit _) ends,
    Json.takeDigits_append (Json.toDigits_isDigit _) alsoEnds] at taken
  obtain ⟨sameDigits, sameRest⟩ := Prod.mk.inj taken
  have sameNumber := congrArg (fun chars => Nat.ofDigitChars 10 chars 0) sameDigits
  simp only [Nat.ofDigitChars_ten_toDigits] at sameNumber
  exact ⟨UInt64.toNat_inj.1 sameNumber, String.toList_inj.1 sameRest⟩

theorem numeral_ne_empty (number : UInt64) : toString number ≠ "" :=
  Nat.repr_ne_empty

/-! ## Types -/

/-- Signatures of different kinds differ in their texts. -/
theorem Signature.text_injective : Function.Injective Signature.text := by
  rintro ⟨params, results⟩ ⟨otherParams, otherResults⟩ same
  simp only [text, String.append_assoc] at same
  obtain ⟨sameParams, sameRest⟩ := kindListText_prefixFree.append_inj same
  have sameResults := kindListText_prefixFree.injective ((String.append_right_inj _).1 sameRest)
  rw [sameParams, sameResults]

example : (Signature.mk [.i32, .funcRef] [.f64]).text = "(i32, funcref) -> (f64)" := by
  decide

/-- What is written of limits behind the minimum. -/
def Limits.boundText : Option UInt64 → String
  | none => ".."
  | some maximum => ".." ++ toString maximum

theorem Limits.text_eq (limits : Limits) :
    limits.text = toString limits.minimum ++ boundText limits.maximum := by
  unfold text boundText
  cases limits.maximum <;> simp [String.append_assoc]

theorem Limits.boundText_injective : Function.Injective boundText := by
  have differs (maximum : UInt64) : boundText none ≠ boundText (some maximum) := by
    intro same
    have noNumeral : ".." ++ "" = ".." ++ toString maximum := same
    exact numeral_ne_empty maximum ((String.append_right_inj _).1 noNumeral).symm
  intro first second same
  cases first with
  | none =>
      cases second with
      | none => rfl
      | some maximum => exact absurd same (differs maximum)
  | some maximum =>
      cases second with
      | none => exact absurd same.symm (differs maximum)
      | some other =>
          have sameNumeral : toString maximum ++ "" = toString other ++ "" := by
            simpa [boundText] using same
          rw [(numeral_append_inj (by simp) (by simp) sameNumeral).1]

/-- Limits with another minimum or maximum differ in their texts. -/
theorem Limits.text_injective : Function.Injective Limits.text := by
  rintro ⟨minimum, maximum⟩ ⟨otherMinimum, otherMaximum⟩ same
  have dots (bound : Option UInt64) : ∀ c ∈ (boundText bound).toList.head?, c.isDigit = false := by
    cases bound <;> simp [boundText]
  simp only [text_eq] at same
  obtain ⟨sameMinimum, sameBound⟩ := numeral_append_inj (dots _) (dots _) same
  rw [sameMinimum, boundText_injective sameBound]

theorem GlobalType.text_injective : Function.Injective GlobalType.text := by
  have differs (kind other : ValueKind) : text ⟨kind, true⟩ ≠ text ⟨other, false⟩ := by
    cases kind <;> cases other <;> decide
  rintro ⟨kind, mutable⟩ ⟨other, alsoMutable⟩ same
  cases mutable with
  | false =>
      cases alsoMutable with
      | false =>
          have sameName : kind.name = other.name := same
          rw [ValueKind.name_prefixFree.injective sameName]
      | true => exact absurd same.symm (differs _ _)
  | true =>
      cases alsoMutable with
      | false => exact absurd same (differs _ _)
      | true =>
          have sameName : kind.name ++ ")" = other.name ++ ")" := by
            simpa [text, String.append_assoc] using same
          rw [(ValueKind.name_prefixFree.append_inj sameName).1]

namespace ItemType

/-- What is written of a type behind its sort. -/
def bodyText : ItemType → String
  | func signature => signature.text
  | memory type => type.limits.text
  | table type => type.element.name ++ (" " ++ type.limits.text)
  | global type => type.text

theorem text_eq (type : ItemType) : type.text = type.kind.name ++ (" " ++ type.bodyText) := by
  rw [← String.toList_inj]
  cases type <;> simp [text, bodyText, kind, ItemKind.name]

/-- Types of items that are not the same differ in their texts. -/
theorem text_injective : Function.Injective text := by
  intro first second same
  rw [text_eq, text_eq] at same
  obtain ⟨sameKind, sameRest⟩ := ItemKind.name_prefixFree.append_inj same
  have sameBody := (String.append_right_inj _).1 sameRest
  cases first with
  | func signature =>
      cases second with
      | func other => exact congrArg func (Signature.text_injective sameBody)
      | _ => contradiction
  | memory type =>
      cases second with
      | memory other =>
          have sameLimits : type.limits = other.limits := Limits.text_injective sameBody
          exact congrArg (fun limits => memory ⟨limits⟩) sameLimits
      | _ => contradiction
  | table type =>
      cases second with
      | table other =>
          obtain ⟨element, limits⟩ := type
          obtain ⟨otherElement, otherLimits⟩ := other
          obtain ⟨sameElement, sameRest⟩ : element = otherElement ∧
              " " ++ limits.text = " " ++ otherLimits.text :=
            ValueKind.name_prefixFree.append_inj sameBody
          rw [sameElement, Limits.text_injective ((String.append_right_inj _).1 sameRest)]
      | _ => contradiction
  | global type =>
      cases second with
      | global other => exact congrArg global (GlobalType.text_injective sameBody)
      | _ => contradiction

end ItemType

end WasmSandbox
