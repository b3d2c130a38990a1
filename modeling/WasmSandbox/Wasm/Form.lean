import WasmSandbox.Wasm.Binary.Section
import WasmSandbox.Wasm.Text.Field
import WasmSandbox.Wasm.Typing

/-!
Contract: modules from bytes.

Owns:
- the choice between the binary form and the text form;
- what counts as a module: it can be read, and it is valid.

Does not own: the two forms, and validity.
-/

namespace WasmSandbox.Wasm

/-- The module in a binary form, if it is valid. -/
def Module.ofBinary (features : Features) (content : List UInt8) : Except String Module := do
  let module ← Binary.read features.multiMemory content
  module.check features
  return module

/-- The module that bytes stand for, if it is valid.  Bytes that do not start like a
binary module are a text. -/
def Module.ofBytes (features : Features) (content : List UInt8) : Except String Module := do
  if Binary.isBinary content then ofBinary features content
  else
    match Text.textOf? content with
    | none => .error "malformed UTF-8"
    | some text =>
        match ← Text.read text.toList with
        | .binary content => ofBinary features content
        | .module module =>
            module.check features
            return module

end WasmSandbox.Wasm
