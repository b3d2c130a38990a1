import WasmSandbox.Json.Printer
import WasmSandbox.Json.Reader

/-!
Contract: hexadecimal text of bytes and of fixed-width numbers.

Owns:
- two lower-case digits a byte, in order;
- numbers with a fixed count of digits, the most significant first.
-/

namespace WasmSandbox.Hex

/-- The lowest `count` hexadecimal digits of a number, the most significant first. -/
def digits : (count value : Nat) → List Char
  | 0, _ => []
  | count + 1, value => digits count (value / 16) ++ [Json.hexDigit (value % 16)]

/-- Bytes as text, two digits each. -/
def encode (bytes : List UInt8) : String :=
  String.ofList (bytes.flatMap fun byte => digits 2 byte.toNat)

def number? (text : List Char) : Option Nat :=
  text.foldlM (fun value c => do return value * 16 + (← Json.hexValue? c)) 0

def decodeChars? : List Char → Option (List UInt8)
  | [] => some []
  | high :: low :: rest => do
      let byte := UInt8.ofNat ((← Json.hexValue? high) * 16 + (← Json.hexValue? low))
      return byte :: (← decodeChars? rest)
  | _ => none

def decode? (text : String) : Option (List UInt8) :=
  decodeChars? text.toList

end WasmSandbox.Hex
