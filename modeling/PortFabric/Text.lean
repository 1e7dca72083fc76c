import PortFabric.Limits

/-!
# Text

Strings are byte strings. Every free text field passes `validateText` before it
is stored: a length bound, well-formed UTF-8 and no control characters.
-/

set_option autoImplicit false

namespace PortFabric

abbrev Text := List UInt8

/-- The bytes of a string literal of the source. -/
def text (literal : String) : Text :=
  literal.toUTF8.data.toList

instance : Coe String Text := ⟨text⟩

def formatU64 (value : Nat) : Text :=
  (Nat.toDigits 10 value).map (fun digit => UInt8.ofNat digit.toNat)

def isDecimal (byte : UInt8) : Bool :=
  byte ≥ 0x30 && byte ≤ 0x39

def formatBool (value : Bool) : Text :=
  if value then "true" else "false"

/-- Folds the continuation bytes of one sequence into its code point. -/
def decodeContinuations : Nat → List UInt8 → Option Nat
  | codePoint, [] => some codePoint
  | codePoint, byte :: rest =>
      if byte &&& 0xc0 = 0x80 then
        decodeContinuations ((codePoint <<< 6) ||| (byte &&& 0x3f).toNat) rest
      else
        none

/-- A multi-byte sequence is legal when it is the shortest encoding of a scalar value. -/
def legalSequence (minimum lead : Nat) (continuations : List UInt8) : Bool :=
  match decodeContinuations lead continuations with
  | none => false
  | some codePoint =>
      if codePoint < minimum || codePoint > 0x10ffff then
        false
      else if codePoint ≥ 0xd800 && codePoint ≤ 0xdfff then
        false
      else
        true

def isValidUtf8 : Text → Bool
  | [] => true
  | byte :: rest =>
      if byte < 0x80 then
        isValidUtf8 rest
      else if byte &&& 0xe0 = 0xc0 then
        match rest with
        | c₁ :: rest => legalSequence 0x80 (byte &&& 0x1f).toNat [c₁] && isValidUtf8 rest
        | _ => false
      else if byte &&& 0xf0 = 0xe0 then
        match rest with
        | c₁ :: c₂ :: rest =>
            legalSequence 0x800 (byte &&& 0x0f).toNat [c₁, c₂] && isValidUtf8 rest
        | _ => false
      else if byte &&& 0xf8 = 0xf0 then
        match rest with
        | c₁ :: c₂ :: c₃ :: rest =>
            legalSequence 0x10000 (byte &&& 0x07).toNat [c₁, c₂, c₃] && isValidUtf8 rest
        | _ => false
      else
        false

def isControl (byte : UInt8) : Bool :=
  byte < 0x20 || byte = 0x7f

/-- Validates a bounded text field; the error is the diagnostic of the source. -/
def validateText (value : Text) (maxLength : Nat) : Except Text Unit :=
  if value.length > maxLength then
    .error (text "text exceeds maximum length " ++ formatU64 maxLength)
  else if !isValidUtf8 value then
    .error "text is not well formed UTF-8"
  else if value.any isControl then
    .error "text contains a control character"
  else
    .ok ()

/-- Newlines and carriage returns become blanks. -/
def singleLine (value : Text) : Text :=
  value.map (fun byte => if byte = 0x0a || byte = 0x0d then 0x20 else byte)

def fnv1a (bytes : Text) : UInt64 :=
  bytes.foldl (fun hash byte => (hash ^^^ byte.toUInt64) * 1099511628211) 1469598103934665603

def checkedMultiply (lhs rhs : Nat) : Option Nat :=
  if lhs ≠ 0 ∧ rhs > maxU64 / lhs then none else some (lhs * rhs)

def checkedAdd (lhs rhs : Nat) : Option Nat :=
  if rhs > maxU64 - lhs then none else some (lhs + rhs)

/-- The part of `value` that a bounded `resize` keeps. -/
def truncate (value : Text) (bound : Nat) : Text :=
  if value.length > bound then value.take bound else value

theorem length_truncate_le (value : Text) (bound : Nat) :
    (truncate value bound).length ≤ bound := by
  unfold truncate
  split
  · exact List.length_take_le ..
  · next within => exact Nat.not_lt.mp within

end PortFabric
