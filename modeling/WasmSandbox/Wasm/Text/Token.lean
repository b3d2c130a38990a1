import WasmSandbox.Bytes.Hex

/-!
Contract: the tokens of the text form of modules.

Owns:
- parentheses, strings as bytes, identifiers, and all other words;
- blanks, line comments, and nested block comments;
- the escapes of strings.

Does not own: which words mean something, or how parentheses pair up.
-/

namespace WasmSandbox.Wasm.Text

/-- A token.  The text of an identifier has no `$` in front. -/
inductive Token where
  | openParen
  | closeParen
  | string (bytes : List UInt8)
  | name (text : String)
  | word (text : String)
deriving DecidableEq, Repr

/-- The outcome of reading, with a diagnostic. -/
abbrev Reading := Except String

/-- The characters of words and identifiers. -/
def isWordChar (c : Char) : Bool :=
  c.isAlphanum || "!#$%&'*+-./:<=>?@\\^_`|~".toList.contains c

/-- Characters that only separate tokens. -/
def isBlank (c : Char) : Bool :=
  c = ' ' || c = '\t' || c = '\n' || c = '\r'

/-- Invisible marks that change the direction of text.  They are refused in
comments and strings, where they could hide what a module says. -/
def isDirectionMark (c : Char) : Bool :=
  [0x202A, 0x202B, 0x202D, 0x202E, 0x2066, 0x2067, 0x2068, 0x206C, 0x2069].contains c.toNat

def charBytes (c : Char) : List UInt8 :=
  (String.singleton c).toUTF8.toList

/-- What follows a line comment. -/
def skipLine : List Char → Reading (List Char)
  | [] => .ok []
  | '\n' :: rest => .ok rest
  | c :: rest => if isDirectionMark c then .error "confusing character" else skipLine rest

/-- What follows a block comment that is `depth` levels deep. -/
def skipBlock : (depth : Nat) → List Char → Reading (List Char)
  | depth, '(' :: ';' :: rest => skipBlock (depth + 1) rest
  | 0, ';' :: ')' :: rest => .ok rest
  | depth + 1, ';' :: ')' :: rest => skipBlock depth rest
  | depth, c :: rest =>
      if isDirectionMark c then .error "confusing character" else skipBlock depth rest
  | _, [] => .error "unterminated block comment"

/-- The digits of a `\u` escape up to the closing brace.  Digits may be grouped by
single underscores. -/
def readCode (digits : List Char) (code : Nat) : List Char → Reading (Char × List Char)
  | [] => .error "unterminated escape"
  | c :: rest =>
      if c = '\x7d' then
        if digits.isEmpty || digits.head? = some '_' then .error "bad escape"
        else if h : code.isValidChar then .ok (Char.ofNatAux code h, rest)
        else .error "escape of no character"
      else if c = '_' then
        if digits.isEmpty || digits.head? = some '_' then .error "bad escape"
        else readCode (c :: digits) code rest
      else
        match Json.hexValue? c with
        | some value =>
            if code * 16 + value < 0x110000 then readCode (c :: digits) (code * 16 + value) rest
            else .error "escape of no character"
        | none => .error "bad escape"

/-- The bytes of a string after its opening quote, and what follows it.  `bytes`
are those so far, the last one first.  `fuel` bounds the number of characters. -/
def readString : (fuel : Nat) → (bytes : List UInt8) → List Char → Reading (List UInt8 × List Char)
  | 0, _, _ => .error "unterminated string"
  | _, bytes, '"' :: rest => .ok (bytes.reverse, rest)
  | fuel + 1, bytes, '\\' :: 'u' :: rest =>
      match rest with
      | c :: rest =>
          if c = '\x7b' then do
            let (char, rest) ← readCode [] 0 rest
            readString fuel ((charBytes char).reverse ++ bytes) rest
          else .error "bad escape"
      | [] => .error "unterminated string"
  | fuel + 1, bytes, '\\' :: c :: rest =>
      match c with
      | 't' => readString fuel (9 :: bytes) rest
      | 'n' => readString fuel (10 :: bytes) rest
      | 'r' => readString fuel (13 :: bytes) rest
      | '"' => readString fuel (34 :: bytes) rest
      | '\'' => readString fuel (39 :: bytes) rest
      | '\\' => readString fuel (92 :: bytes) rest
      | _ =>
          match Json.hexValue? c, rest with
          | some high, d :: rest =>
              match Json.hexValue? d with
              | some low => readString fuel (UInt8.ofNat (high * 16 + low) :: bytes) rest
              | none => .error "bad escape"
          | _, _ => .error "bad escape"
  | fuel + 1, bytes, c :: rest =>
      if c.toNat < 32 || c.toNat = 127 || c = '\\' || isDirectionMark c then
        .error "character not allowed in a string"
      else readString fuel ((charBytes c).reverse ++ bytes) rest
  | _, _, [] => .error "unterminated string"

/-- The text that bytes write in UTF-8. -/
def textOf? (bytes : List UInt8) : Option String :=
  String.fromUTF8? ⟨bytes.toArray⟩

/-- A word or identifier, and what follows it.  A quoted identifier is a dollar
sign and a string. -/
def readWord (chars : List Char) : Reading (Token × List Char) :=
  let text := chars.takeWhile isWordChar
  let rest := chars.dropWhile isWordChar
  match text, rest with
  | ['$'], '"' :: rest => do
      let (bytes, rest) ← readString (rest.length + 1) [] rest
      match textOf? bytes with
      | some name => if name.isEmpty then .error "empty identifier" else .ok (.name name, rest)
      | none => .error "malformed identifier"
  | ['$'], _ => .error "empty identifier"
  | '$' :: name, rest => .ok (.name (String.ofList name), rest)
  | [], _ => .error "unexpected character"
  | text, rest => .ok (.word (String.ofList text), rest)

/-- Two tokens other than parentheses need a blank or a comment between them. -/
def checkBoundary (rest : List Char) : Reading Unit :=
  match rest with
  | c :: _ =>
      if isWordChar c || c = '"' || [',', ';', '[', ']'].contains c then
        match rest with
        | ';' :: ';' :: _ => .ok ()
        | _ => .error "blank expected between tokens"
      else .ok ()
  | [] => .ok ()

/-- The tokens of a text.  `fuel` bounds the number of characters. -/
def tokens : (fuel : Nat) → List Char → Reading (List Token)
  | _, [] => .ok []
  | 0, _ => .error "text too long"
  | fuel + 1, ';' :: ';' :: rest => do tokens fuel (← skipLine rest)
  | fuel + 1, '(' :: ';' :: rest => do tokens fuel (← skipBlock 0 rest)
  | fuel + 1, '(' :: rest => do return .openParen :: (← tokens fuel rest)
  | fuel + 1, ')' :: rest => do return .closeParen :: (← tokens fuel rest)
  | fuel + 1, '"' :: rest => do
      let (bytes, rest) ← readString (rest.length + 1) [] rest
      checkBoundary rest
      return .string bytes :: (← tokens fuel rest)
  | fuel + 1, c :: rest =>
      if isBlank c then tokens fuel rest
      else do
        let (token, rest) ← readWord (c :: rest)
        checkBoundary rest
        return token :: (← tokens fuel rest)

end WasmSandbox.Wasm.Text
