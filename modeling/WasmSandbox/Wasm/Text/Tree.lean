import WasmSandbox.Wasm.Text.Token

/-!
Contract: the tree of parentheses of a module text.

Owns:
- trees whose leaves are tokens, built from a list of tokens in one pass;
- the removal of annotations, which are lists that start with `@`.

Does not own: what the lists mean.
-/

namespace WasmSandbox.Wasm.Text

/-- A token, or a list in parentheses. -/
inductive Tree where
  | string (bytes : List UInt8)
  | name (text : String)
  | word (text : String)
  | list (items : List Tree)
deriving Repr

namespace Tree

def isAnnotation : List Tree → Bool
  | word text :: _ => text.startsWith "@"
  | _ => false

/-- The trees of a list of tokens.  `items` are the trees of the innermost open
list, the last one first, and `stack` those of the lists around it. -/
def build (stack : List (List Tree)) (items : List Tree) : List Token → Reading (List Tree)
  | [] => if stack.isEmpty then .ok items.reverse else .error "closing parenthesis expected"
  | .openParen :: rest => build (items :: stack) [] rest
  | .closeParen :: rest =>
      match stack with
      | outer :: stack =>
          let closed := items.reverse
          build stack (if isAnnotation closed then outer else list closed :: outer) rest
      | [] => .error "unexpected closing parenthesis"
  | .string bytes :: rest => build stack (string bytes :: items) rest
  | .name text :: rest => build stack (name text :: items) rest
  | .word text :: rest => build stack (word text :: items) rest

def isList : Tree → Bool
  | list _ => true
  | _ => false

mutual

/-- The number of tokens and lists in a tree. -/
def weight : Tree → Nat
  | list items => weights items + 1
  | _ => 1

/-- The number of tokens and lists in a list of trees. -/
def weights : List Tree → Nat
  | [] => 0
  | tree :: rest => weight tree + weights rest

end

/-- The items of a list that starts with the given word. -/
def listOf? (head : String) : Tree → Option (List Tree)
  | list (word text :: items) => if text = head then some items else none
  | _ => none

/-- Whether a tree is a list that starts with the given word. -/
def isListOf (head : String) (tree : Tree) : Bool :=
  (tree.listOf? head).isSome

end Tree

/-- An optional identifier in front, and the rest. -/
def takeName : List Tree → Option String × List Tree
  | .name text :: rest => (some text, rest)
  | rest => (none, rest)

/-- The lists in front that start with the given word, and the rest. -/
def takeLists (head : String) : List Tree → List (List Tree) × List Tree
  | tree :: rest =>
      match tree.listOf? head with
      | some items =>
          let (lists, rest) := takeLists head rest
          (items :: lists, rest)
      | none => ([], tree :: rest)
  | [] => ([], [])

end WasmSandbox.Wasm.Text
