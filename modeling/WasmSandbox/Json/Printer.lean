import WasmSandbox.Json.Value

/-!
Contract: the compact text of a JSON document.

Owns:
- the escapes of a string literal: the short escapes where JSON has one, `\u00xx`
  for the other control characters, and every other character as itself;
- the text of numerals, arrays and objects without any blank.

Does not own: layouts with blanks or line breaks.
-/

namespace WasmSandbox.Json

/-- The lower-case hexadecimal digit of a number below sixteen. -/
def hexDigit (value : Nat) : Char :=
  if value < 10 then Char.ofNat (48 + value) else Char.ofNat (87 + value)

/-- The characters that stand for one character inside a string literal. -/
def escape (c : Char) : List Char :=
  match c with
  | '"' => ['\\', '"']
  | '\\' => ['\\', '\\']
  | '\x08' => ['\\', 'b']
  | '\x0c' => ['\\', 'f']
  | '\n' => ['\\', 'n']
  | '\r' => ['\\', 'r']
  | '\t' => ['\\', 't']
  | c =>
      if c.toNat < 32 then
        ['\\', 'u', '0', '0', hexDigit (c.toNat / 16), hexDigit (c.toNat % 16)]
      else [c]

/-- A string literal, quotes included. -/
def quote (content : String) : List Char :=
  '"' :: (content.toList.flatMap escape ++ ['"'])

/-- The digits of a number, with its sign. -/
def intText (value : Int) : List Char :=
  if value < 0 then '-' :: Nat.toDigits 10 value.natAbs else Nat.toDigits 10 value.natAbs

/-- A numeral: sign, integer part, fraction and exponent, each where present. -/
def numeralText (numeral : Numeral) : List Char :=
  (if numeral.negative then ['-'] else []) ++ Nat.toDigits 10 numeral.whole ++
    (if numeral.fraction.isEmpty then [] else '.' :: numeral.fraction) ++
    (match numeral.exponent with
      | some exponent => 'e' :: intText exponent
      | none => [])

mutual

/-- The compact text of a document.  A literal that stands for no text has no
text form and is written as an empty string. -/
def print : Json → List Char
  | .null => ['n', 'u', 'l', 'l']
  | .bool true => ['t', 'r', 'u', 'e']
  | .bool false => ['f', 'a', 'l', 's', 'e']
  | .number numeral => numeralText numeral
  | .text content => quote (content.getD "")
  | .array items => '[' :: (printItems items ++ [']'])
  | .object members => '{' :: (printMembers members ++ ['}'])

def printItems : List Json → List Char
  | [] => []
  | [item] => print item
  | item :: items => print item ++ ',' :: printItems items

def printMembers : List (Option String × Json) → List Char
  | [] => []
  | [(name, value)] => quote (name.getD "") ++ ':' :: print value
  | (name, value) :: members =>
      quote (name.getD "") ++ ':' :: (print value ++ ',' :: printMembers members)

end

def compact (document : Json) : String :=
  String.ofList document.print

end WasmSandbox.Json
