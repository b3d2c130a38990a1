import WasmSandbox.Bytes.Space

/-!
Contract: byte sequences that grow by whole pages of 64 KiB.

Owns:
- pages of exactly 64 KiB, and the empty page;
- sequences of pages as a `ByteSpace`, and their growth by empty pages.

Pages that were never written share one value, so a large sequence costs no more
than the pages in use.

Does not own: any limit on the number of pages.
-/

namespace WasmSandbox

def pageSize : Nat := 65536

/-- Replacing a byte keeps the size of a buffer. -/
theorem size_set (bytes : ByteArray) (index : Nat) (value : UInt8) (h : index < bytes.size) :
    (bytes.set index value h).size = bytes.size :=
  Array.size_set ..

/-- A page: a buffer of exactly `pageSize` bytes. -/
def Page : Type := { bytes : ByteArray // bytes.size = pageSize }

namespace Page

def zero : Page :=
  ⟨⟨Array.replicate pageSize 0⟩, Array.size_replicate⟩

def byte (page : Page) (index : Nat) : UInt8 :=
  if h : index < page.val.size then page.val[index] else 0

def store (page : Page) (index : Nat) (value : UInt8) : Page :=
  if h : index < page.val.size then
    ⟨page.val.set index value h, (size_set page.val index value h).trans page.property⟩
  else page

end Page

/-- A sequence of whole pages. -/
structure PagedBytes where
  pages : Array Page

namespace PagedBytes

def zeros (count : Nat) : PagedBytes := ⟨Array.replicate count Page.zero⟩

def pageCount (bytes : PagedBytes) : Nat := bytes.pages.size

/-- The byte at an address, and zero outside. -/
def byte (bytes : PagedBytes) (index : Nat) : UInt8 :=
  match bytes.pages[index / pageSize]? with
  | some page => page.byte (index % pageSize)
  | none => 0

def store (bytes : PagedBytes) (index : Nat) (value : UInt8) : PagedBytes :=
  ⟨bytes.pages.modify (index / pageSize) fun page => page.store (index % pageSize) value⟩

/-- The sequence with zero pages appended. -/
def extend (bytes : PagedBytes) (count : Nat) : PagedBytes :=
  ⟨bytes.pages ++ Array.replicate count Page.zero⟩

end PagedBytes

instance : ByteSpace PagedBytes where
  size bytes := bytes.pageCount * pageSize
  byte := PagedBytes.byte
  store := PagedBytes.store

end WasmSandbox
