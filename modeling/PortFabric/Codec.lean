import PortFabric.Digest
import PortFabric.Library.Formats

/-!
# Byte codec

Every write is checked against the limit. A failed write poisons the writer, so
a partial document is never mistaken for a complete one. Every read is checked
against the remaining input.
-/

set_option autoImplicit false

namespace PortFabric

structure ByteWriter where
  out : Text := []
  limit : Nat
  ok : Bool := true

namespace ByteWriter

/-- Appends the bytes when the writer is sound and they fit. -/
def raw (writer : ByteWriter) (bytes : Text) : ByteWriter :=
  if !writer.ok then
    writer
  else if bytes.length > writer.limit ∨ writer.out.length > writer.limit - bytes.length then
    { writer with ok := false }
  else
    { writer with out := writer.out ++ bytes }

def u8 (writer : ByteWriter) (value : Nat) : ByteWriter := writer.raw (littleEndian 1 value)

def u16 (writer : ByteWriter) (value : Nat) : ByteWriter := writer.raw (littleEndian 2 value)

def u32 (writer : ByteWriter) (value : Nat) : ByteWriter := writer.raw (littleEndian 4 value)

def u64 (writer : ByteWriter) (value : Nat) : ByteWriter := writer.raw (littleEndian 8 value)

def boolean (writer : ByteWriter) (value : Bool) : ByteWriter := writer.u8 value.toNat

/-- Length prefixed text with an explicit per-field bound. -/
def text (writer : ByteWriter) (value : Text) (maxLength : Nat) : ByteWriter :=
  if value.length > maxLength then
    { writer with ok := false }
  else
    (writer.u32 value.length).raw value

def each {α : Type} (writer : ByteWriter) (values : List α)
    (write : ByteWriter → α → ByteWriter) : ByteWriter :=
  values.foldl write writer

end ByteWriter

/-- What a writer emits, piece by piece; a text over its bound is a missing piece. -/
abbrev ByteLayout := Formats.Layout UInt8

namespace ByteLayout

def unsigned (width value : Nat) : ByteLayout := [some (littleEndian width value)]

def boolean (value : Bool) : ByteLayout := unsigned 1 value.toNat

def text (value : Text) (maxLength : Nat) : ByteLayout :=
  if value.length > maxLength then [none] else [some (littleEndian 4 value.length), some value]

end ByteLayout

/-- The value of bytes written least significant first. -/
def ofLittleEndian : Text → Nat
  | [] => 0
  | byte :: rest => byte.toNat + 256 * ofLittleEndian rest

/-- A read consumes the input from the front; a failed read ends the decoding. -/
abbrev ByteReader := Formats.Parser Unit UInt8

namespace ByteReader

def fail {α : Type} : ByteReader α := throw ()

def raw (length : Nat) : ByteReader Text := fun input =>
  if input.length < length then .error () else .ok (input.take length, input.drop length)

def unsigned (width : Nat) : ByteReader Nat := do
  return ofLittleEndian (← raw width)

def u8 : ByteReader UInt8 := do
  return UInt8.ofNat (← unsigned 1)

def u16 : ByteReader UInt16 := do
  return UInt16.ofNat (← unsigned 2)

def u32 : ByteReader UInt32 := do
  return UInt32.ofNat (← unsigned 4)

def u64 : ByteReader UInt64 := do
  return UInt64.ofNat (← unsigned 8)

/-- Only the bytes 0 and 1 are flags. -/
def boolean : ByteReader Bool :=
  u8.convert (fun raw => if raw > 1 then none else some (raw = 1)) ()

def text (maxLength : Nat) : ByteReader Text := do
  let length ← u32
  if length.toNat > maxLength then
    fail
  else
    raw length.toNat

end ByteReader

/-- One bit of the reflected CRC-32 division. -/
def crcBit (value : UInt32) : UInt32 :=
  if value &&& 1 ≠ 0 then (0xedb88320 : UInt32) ^^^ (value >>> 1) else value >>> 1

def crcEntry (index : UInt32) : UInt32 :=
  (List.range 8).foldl (fun (value : UInt32) _ => crcBit value) index

/-- The table of the byte-wise CRC-32, one entry for every byte. -/
def crcTable : List UInt32 :=
  (List.range 256).map fun index => crcEntry (UInt32.ofNat index)

def crcStep (crc : UInt32) (byte : UInt8) : UInt32 :=
  crcTable.getD ((crc ^^^ byte.toUInt32) &&& 0xff).toNat 0 ^^^ (crc >>> 8)

def crc32 (bytes : Text) : UInt32 :=
  bytes.foldl crcStep 0xffffffff ^^^ 0xffffffff

end PortFabric
