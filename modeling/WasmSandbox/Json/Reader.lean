import WasmSandbox.Json.Value

/-!
Contract: strict JSON text, read into documents.

Owns:
- the grammar of documents: blanks, literals, numerals, strings, arrays, objects;
- the reading of escapes, with surrogate pairs joined and lone halves noted.

Does not own: what a document stands for.  Nothing may follow a document but
blanks, and no extension of the grammar is accepted.
-/

namespace WasmSandbox.Json

/-- The four characters that may stand between tokens. -/
def isBlank (c : Char) : Bool :=
  c = ' ' || c = '\n' || c = '\r' || c = '\t'

def skipBlanks (input : List Char) : List Char :=
  input.dropWhile isBlank

/-- The value of a hexadecimal digit of either case. -/
def hexValue? (c : Char) : Option Nat :=
  if '0' ≤ c && c ≤ '9' then some (c.toNat - 48)
  else if 'a' ≤ c && c ≤ 'f' then some (c.toNat - 87)
  else if 'A' ≤ c && c ≤ 'F' then some (c.toNat - 55)
  else none

def hexQuad? (a b c d : Char) : Option Nat := do
  return ((← hexValue? a) * 4096 + (← hexValue? b) * 256 + (← hexValue? c) * 16 + (← hexValue? d))

/-- The character a one-letter escape stands for. -/
def shortEscape? : Char → Option Char
  | '"' => some '"'
  | '\\' => some '\\'
  | '/' => some '/'
  | 'b' => some '\x08'
  | 'f' => some '\x0c'
  | 'n' => some '\n'
  | 'r' => some '\r'
  | 't' => some '\t'
  | _ => none

/-- Whether a code unit is the first half of a surrogate pair. -/
def isLeadingHalf (unit : Nat) : Bool := 0xD800 ≤ unit && unit < 0xDC00

/-- Whether a code unit is the second half of a surrogate pair. -/
def isTrailingHalf (unit : Nat) : Bool := 0xDC00 ≤ unit && unit < 0xE000

/-- The rest of a string literal after its opening quote.  `content` holds the
characters so far, last first, and is `none` once a lone half was met. -/
def readText (content : Option (List Char)) :
    List Char → Option (Option String × List Char)
  | '"' :: rest => some (content.map fun chars => String.ofList chars.reverse, rest)
  | '\\' :: 'u' :: a :: b :: c :: d :: '\\' :: 'u' :: e :: f :: g :: h :: rest =>
      match hexQuad? a b c d with
      | none => none
      | some first =>
          if isLeadingHalf first then
            match hexQuad? e f g h with
            | none => none
            | some second =>
                if isTrailingHalf second then
                  let code := 0x10000 + (first - 0xD800) * 1024 + (second - 0xDC00)
                  readText (content.map fun chars => Char.ofNat code :: chars) rest
                else readText none ('\\' :: 'u' :: e :: f :: g :: h :: rest)
          else if isTrailingHalf first then
            readText none ('\\' :: 'u' :: e :: f :: g :: h :: rest)
          else
            readText (content.map fun chars => Char.ofNat first :: chars)
              ('\\' :: 'u' :: e :: f :: g :: h :: rest)
  | '\\' :: 'u' :: a :: b :: c :: d :: rest =>
      match hexQuad? a b c d with
      | none => none
      | some unit =>
          if isLeadingHalf unit || isTrailingHalf unit then readText none rest
          else readText (content.map fun chars => Char.ofNat unit :: chars) rest
  | '\\' :: c :: rest =>
      match shortEscape? c with
      | none => none
      | some plain => readText (content.map fun chars => plain :: chars) rest
  | c :: rest =>
      if c = '\\' || c.toNat < 32 then none
      else readText (content.map fun chars => c :: chars) rest
  | [] => none

/-- The digits at the front, and what follows them. -/
def takeDigits (input : List Char) : List Char × List Char :=
  (input.takeWhile Char.isDigit, input.dropWhile Char.isDigit)

/-- An exponent, if the text goes on with one. -/
def readExponent (input : List Char) : Option (Option Int × List Char) :=
  match input with
  | mark :: rest =>
      if mark = 'e' || mark = 'E' then
        let (negative, rest) :=
          match rest with
          | '-' :: rest => (true, rest)
          | '+' :: rest => (false, rest)
          | rest => (false, rest)
        let (digits, rest) := takeDigits rest
        if digits.isEmpty then none
        else
          let size : Int := Nat.ofDigitChars 10 digits 0
          some (some (if negative then -size else size), rest)
      else some (none, input)
  | [] => some (none, [])

/-- A fraction, if the text goes on with one. -/
def readFraction (input : List Char) : Option (List Char × List Char) :=
  match input with
  | '.' :: rest =>
      let (digits, rest) := takeDigits rest
      if digits.isEmpty then none else some (digits, rest)
  | _ => some ([], input)

def readMagnitude (negative : Bool) (input : List Char) : Option (Numeral × List Char) :=
  let (digits, rest) := takeDigits input
  if digits.isEmpty || (digits.head? = some '0' && digits.length > 1) then none
  else do
    let (fraction, rest) ← readFraction rest
    let (exponent, rest) ← readExponent rest
    return (⟨negative, Nat.ofDigitChars 10 digits 0, fraction, exponent⟩, rest)

def readNumeral : List Char → Option (Numeral × List Char)
  | '-' :: rest => readMagnitude true rest
  | input => readMagnitude false input

mutual

/-- A document at the front of the text, after blanks, and what follows it.
`fuel` bounds the nesting of calls. -/
def readValue : Nat → List Char → Option (Json × List Char)
  | 0, _ => none
  | fuel + 1, input =>
      match skipBlanks input with
      | 'n' :: 'u' :: 'l' :: 'l' :: rest => some (.null, rest)
      | 't' :: 'r' :: 'u' :: 'e' :: rest => some (.bool true, rest)
      | 'f' :: 'a' :: 'l' :: 's' :: 'e' :: rest => some (.bool false, rest)
      | '"' :: rest =>
          match readText (some []) rest with
          | some (content, rest) => some (.text content, rest)
          | none => none
      | '[' :: rest =>
          match skipBlanks rest with
          | ']' :: rest => some (.array [], rest)
          | rest =>
              match readItems fuel rest with
              | some (items, rest) => some (.array items, rest)
              | none => none
      | '{' :: rest =>
          match skipBlanks rest with
          | '}' :: rest => some (.object [], rest)
          | rest =>
              match readMembers fuel rest with
              | some (members, rest) => some (.object members, rest)
              | none => none
      | input =>
          match readNumeral input with
          | some (numeral, rest) => some (.number numeral, rest)
          | none => none

/-- The items of an array up to its closing bracket. -/
def readItems : Nat → List Char → Option (List Json × List Char)
  | 0, _ => none
  | fuel + 1, input =>
      match readValue fuel input with
      | none => none
      | some (item, rest) =>
          match skipBlanks rest with
          | ']' :: rest => some ([item], rest)
          | ',' :: rest =>
              match readItems fuel rest with
              | some (items, rest) => some (item :: items, rest)
              | none => none
          | _ => none

/-- The members of an object up to its closing brace. -/
def readMembers : Nat → List Char → Option (List (Option String × Json) × List Char)
  | 0, _ => none
  | fuel + 1, input =>
      match skipBlanks input with
      | '"' :: rest =>
          match readText (some []) rest with
          | none => none
          | some (name, rest) =>
              match skipBlanks rest with
              | ':' :: rest =>
                  match readValue fuel rest with
                  | none => none
                  | some (value, rest) =>
                      match skipBlanks rest with
                      | '}' :: rest => some ([(name, value)], rest)
                      | ',' :: rest =>
                          match readMembers fuel rest with
                          | some (members, rest) => some ((name, value) :: members, rest)
                          | none => none
                      | _ => none
              | _ => none
      | _ => none

end

/-- The document a text writes, if it is one document and nothing else.  Every
call but the one for an item consumes a character, so twice the length of the
input bounds the nesting. -/
def readChars? (input : List Char) : Option Json :=
  match readValue (2 * input.length + 2) input with
  | some (document, rest) => if (skipBlanks rest).isEmpty then some document else none
  | none => none

/-- The document a string writes, if it is one document and nothing else. -/
def read? (input : String) : Option Json :=
  readChars? input.toList

end WasmSandbox.Json
