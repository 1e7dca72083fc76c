import Mathlib.Algebra.Group.Nat.Defs
import PortFabric.Generation
import PortFabric.Identifier

/-!
# Port characteristics

The dimensions of a port configuration. An `illegal` constructor is a byte
outside the enumeration: requests are decoded without checking some of them.
-/

set_option autoImplicit false

namespace PortFabric

inductive PortMode where
  | physical | logical
  | illegal (raw : Fin 254)
  deriving DecidableEq, Repr

inductive ProtocolFamily where
  | unknown | ethernet | infiniBand | fibreChannel | opticalTransport | overlay | synthetic
  | illegal (raw : Fin 249)
  deriving DecidableEq, Repr

inductive FecMode where
  | unknown | unsupported | none | firecode | reedSolomon528 | reedSolomon544
  | reedSolomon544Interleaved | reedSolomon272Interleaved
  | illegal (raw : Fin 248)
  deriving DecidableEq, Repr

inductive DuplexMode where
  | unknown | unsupported | half | full
  | illegal (raw : Fin 252)
  deriving DecidableEq, Repr

inductive AutonegPolicy where
  | unknown | unsupported | forced | preferred | negotiated
  | illegal (raw : Fin 251)
  deriving DecidableEq, Repr

inductive PauseMode where
  | unknown | unsupported | disabled | transmit | receive | bidirectional
  | illegal (raw : Fin 250)
  deriving DecidableEq, Repr

inductive BreakoutMode where
  | none | x2 | x4 | x8
  | illegal (raw : Fin 252)
  deriving DecidableEq, Repr

inductive SpeedSelection where
  | auto | forced
  | illegal (raw : Fin 254)
  deriving DecidableEq, Repr

namespace PortMode

def isValid : PortMode → Bool
  | illegal _ => false
  | _ => true

def toText : PortMode → Text
  | physical => "PHYSICAL"
  | logical => "LOGICAL"
  | illegal _ => "UNKNOWN"

end PortMode

namespace ProtocolFamily

def isValid : ProtocolFamily → Bool
  | illegal _ => false
  | _ => true

def toText : ProtocolFamily → Text
  | unknown => "UNKNOWN"
  | ethernet => "ETHERNET"
  | infiniBand => "INFINIBAND"
  | fibreChannel => "FIBRECHANNEL"
  | opticalTransport => "OPTICAL_TRANSPORT"
  | overlay => "OVERLAY"
  | synthetic => "SYNTHETIC"
  | illegal _ => "UNKNOWN"

end ProtocolFamily

namespace FecMode

def isValid : FecMode → Bool
  | illegal _ => false
  | _ => true

def toText : FecMode → Text
  | unknown => "UNKNOWN"
  | unsupported => "UNSUPPORTED"
  | none => "NONE"
  | firecode => "FIRECODE"
  | reedSolomon528 => "RS528"
  | reedSolomon544 => "RS544"
  | reedSolomon544Interleaved => "RS544_INTERLEAVED"
  | reedSolomon272Interleaved => "RS272_INTERLEAVED"
  | illegal _ => "UNKNOWN"

end FecMode

namespace DuplexMode

def isValid : DuplexMode → Bool
  | illegal _ => false
  | _ => true

def toText : DuplexMode → Text
  | unknown => "UNKNOWN"
  | unsupported => "UNSUPPORTED"
  | half => "HALF"
  | full => "FULL"
  | illegal _ => "UNKNOWN"

end DuplexMode

namespace AutonegPolicy

def isValid : AutonegPolicy → Bool
  | illegal _ => false
  | _ => true

def toText : AutonegPolicy → Text
  | unknown => "UNKNOWN"
  | unsupported => "UNSUPPORTED"
  | forced => "FORCED"
  | preferred => "PREFERRED"
  | negotiated => "NEGOTIATED"
  | illegal _ => "UNKNOWN"

end AutonegPolicy

namespace PauseMode

def isValid : PauseMode → Bool
  | illegal _ => false
  | _ => true

def toText : PauseMode → Text
  | unknown => "UNKNOWN"
  | unsupported => "UNSUPPORTED"
  | disabled => "DISABLED"
  | transmit => "TRANSMIT"
  | receive => "RECEIVE"
  | bidirectional => "BIDIRECTIONAL"
  | illegal _ => "UNKNOWN"

end PauseMode

namespace BreakoutMode

def isValid : BreakoutMode → Bool
  | illegal _ => false
  | _ => true

def toText : BreakoutMode → Text
  | none => "NONE"
  | x2 => "X2"
  | x4 => "X4"
  | x8 => "X8"
  | illegal _ => "NONE"

def children : BreakoutMode → Nat
  | none => 1
  | x2 => 2
  | x4 => 4
  | x8 => 8
  | illegal _ => 0

end BreakoutMode

namespace SpeedSelection

def isValid : SpeedSelection → Bool
  | illegal _ => false
  | _ => true

def toText : SpeedSelection → Text
  | auto => "AUTO"
  | forced => "FORCED"
  | illegal _ => "AUTO"

end SpeedSelection

def breakoutLanesAreDivisible (lanes : Nat) (mode : BreakoutMode) : Bool :=
  if mode.children = 0 ∨ lanes = 0 then false else lanes % mode.children = 0

/-- A signalling rate in bits per second; zero is the unspecified rate. -/
structure PortSpeed where
  bitsPerSecond : Nat
  inRange : bitsPerSecond = 0 ∨
    (minSpeedBitsPerSecond ≤ bitsPerSecond ∧ bitsPerSecond ≤ maxSpeedBitsPerSecond)
  deriving DecidableEq

namespace PortSpeed

def unspecified : PortSpeed := ⟨0, .inl rfl⟩

instance : Inhabited PortSpeed := ⟨unspecified⟩

def valid (speed : PortSpeed) : Bool := speed.bitsPerSecond ≠ 0

def fromBitsPerSecond (bits : Nat) : Option PortSpeed :=
  if range : minSpeedBitsPerSecond ≤ bits ∧ bits ≤ maxSpeedBitsPerSecond then
    some ⟨bits, .inr range⟩
  else
    none

/-- Drops trailing zeros of a fraction of `places + 1` digits. -/
def trimFraction : Nat → Nat → Nat × Nat
  | 0, remainder => (0, remainder)
  | places + 1, remainder =>
      if remainder % 10 = 0 then trimFraction places (remainder / 10) else (places + 1, remainder)

/-- The leading zeros of a fraction of `places + 1` digits. -/
def padFraction : Nat → Nat → Text
  | 0, _ => []
  | places + 1, remainder =>
      if remainder < 10 ^ (places + 1) then text "0" ++ padFraction places remainder else []

/-- The fraction digits of a rate in thousandths of a gigabit. -/
def fractionDigits (remainder : Nat) : Text :=
  let trimmed := trimFraction 2 remainder
  padFraction trimmed.1 trimmed.2 ++ formatU64 trimmed.2

def toText (speed : PortSpeed) : Text :=
  let bits := speed.bitsPerSecond
  if !speed.valid then
    "UNSPECIFIED"
  else if bits % 1000000000 = 0 then
    formatU64 (bits / 1000000000) ++ text "G"
  else if bits % 1000000 = 0 ∧ bits > 1000000000 then
    formatU64 (bits / 1000000000) ++ text "." ++
      fractionDigits (bits % 1000000000 / 1000000) ++ text "G"
  else if bits % 1000000 = 0 then
    formatU64 (bits / 1000000) ++ text "M"
  else if bits % 1000 = 0 then
    formatU64 (bits / 1000) ++ text "K"
  else
    formatU64 bits

/-- The multiplier that the unit at the end of a rate asks for, and the digits before it. -/
def splitUnit (value : Text) : Nat × Text :=
  match value.getLast? with
  | none => (1, value)
  | some last =>
      if last = 0x47 || last = 0x67 then (1000000000, value.dropLast)
      else if last = 0x4d || last = 0x6d then (1000000, value.dropLast)
      else if last = 0x4b || last = 0x6b then (1000, value.dropLast)
      else (1, value)

/-- The integer digits, accumulated within 64 bits, and what follows them. -/
def parseWhole : Nat → Text → Option (Nat × Text)
  | whole, [] => some (whole, [])
  | whole, byte :: rest =>
      if isDecimal byte then
        let digit := byte.toNat - 0x30
        if whole > (maxU64 - digit) / 10 then none else parseWhole (whole * 10 + digit) rest
      else
        some (whole, byte :: rest)

/-- Up to three digits behind the point: their count, their value, its scale and the rest. -/
def parseDecimals : Nat → Nat → Nat → Text → Option (Nat × Nat × Nat × Text)
  | count, fraction, scale, [] => some (count, fraction, scale, [])
  | count, fraction, scale, byte :: rest =>
      if isDecimal byte then
        if count ≥ 3 then none
        else parseDecimals (count + 1) (fraction * 10 + (byte.toNat - 0x30)) (scale * 10) rest
      else
        some (count, fraction, scale, byte :: rest)

/-- The fraction of a rate and its scale; nothing may follow it. -/
def parseFraction : Text → Option (Nat × Nat)
  | [] => some (0, 1)
  | byte :: rest =>
      if byte ≠ 0x2e then none
      else
        match parseDecimals 0 0 1 rest with
        | none => none
        | some (count, fraction, scale, rest) =>
            if count = 0 then none else if rest.isEmpty then some (fraction, scale) else none

/-- The bits that a fraction stands for; a plain bit rate has none. -/
def scaleFraction (multiplier fraction scale : Nat) : Option Nat :=
  if multiplier = 1 then
    if scale ≠ 1 then none else some 0
  else
    let unit := multiplier / scale
    if unit = 0 then none else checkedMultiply fraction unit

def parse (value : Text) : Option PortSpeed :=
  if value.isEmpty || value.length > 32 then none
  else
    let (multiplier, digits) := splitUnit value
    if digits.isEmpty || digits.length > 20 then none
    else do
      let (whole, rest) ← parseWhole 0 digits
      let (fraction, scale) ← parseFraction rest
      let total ← checkedMultiply whole multiplier
      let fractional ← scaleFraction multiplier fraction scale
      let bits ← checkedAdd total fractional
      fromBitsPerSecond bits

theorem lt_word (speed : PortSpeed) : speed.bitsPerSecond < 2 ^ 64 := by
  have within : maxSpeedBitsPerSecond < 2 ^ 64 := by decide
  obtain zero | ⟨_, upper⟩ := speed.inRange
  · rw [zero]
    decide
  · exact Nat.lt_of_le_of_lt upper within

theorem fromBits_eq_some {bits : Nat} {speed : PortSpeed} :
    fromBitsPerSecond bits = some speed ↔
      speed.valid = true ∧ speed.bitsPerSecond = bits := by
  unfold fromBitsPerSecond
  split
  · next range =>
      have positive : bits ≠ 0 := by
        have minimum : 0 < minSpeedBitsPerSecond := by decide
        omega
      constructor
      · intro given
        cases given
        exact ⟨decide_eq_true positive, rfl⟩
      · intro given
        rcases given with ⟨_, rfl⟩
        rfl
  · next outside =>
      refine iff_of_false nofun ?_
      intro given
      rcases given with ⟨valid, rfl⟩
      exact speed.inRange.elim (fun zero => by simp [PortSpeed.valid, zero] at valid) outside

end PortSpeed

/-- The product of a lane count and a lane rate, when it is a representable rate. -/
def laneTotal (lanes : Nat) (perLane : PortSpeed) : Option PortSpeed :=
  (checkedMultiply perLane.bitsPerSecond lanes).bind PortSpeed.fromBitsPerSecond

/-- A lane count and a lane rate whose total is representable, or nothing at all. -/
structure LaneConfiguration where
  lanes : Nat
  perLane : PortSpeed
  consistent : (lanes = 0 ∧ perLane = .unspecified) ∨
    (0 < lanes ∧ lanes ≤ maxLanes ∧ perLane.valid = true ∧ (laneTotal lanes perLane).isSome)
  deriving DecidableEq

namespace LaneConfiguration

def unspecified : LaneConfiguration := ⟨0, .unspecified, .inl ⟨rfl, rfl⟩⟩

instance : Inhabited LaneConfiguration := ⟨unspecified⟩

def valid (configuration : LaneConfiguration) : Bool :=
  configuration.lanes ≠ 0 && configuration.perLane.valid

def create (lanes : Nat) (perLane : PortSpeed) : Option LaneConfiguration :=
  if legal : 0 < lanes ∧ lanes ≤ maxLanes ∧ perLane.valid = true ∧
      (laneTotal lanes perLane).isSome then
    some ⟨lanes, perLane, .inr legal⟩
  else
    none

def total (configuration : LaneConfiguration) : Option PortSpeed :=
  if configuration.valid then laneTotal configuration.lanes configuration.perLane else none

def toText (configuration : LaneConfiguration) : Text :=
  if !configuration.valid then
    "UNSPECIFIED"
  else
    formatU64 configuration.lanes ++ text "x" ++ configuration.perLane.toText ++
      match configuration.total with
      | some total => text "=" ++ total.toText
      | none => []

end LaneConfiguration

structure Mtu where
  value : Nat
  inRange : value = 0 ∨ (minMtu ≤ value ∧ value ≤ maxMtu)
  deriving DecidableEq

namespace Mtu

def unspecified : Mtu := ⟨0, .inl rfl⟩

instance : Inhabited Mtu := ⟨unspecified⟩

def create (value : Nat) : Option Mtu :=
  if range : minMtu ≤ value ∧ value ≤ maxMtu then some ⟨value, .inr range⟩ else none

def valid (mtu : Mtu) : Bool := mtu.value ≠ 0

def toText (mtu : Mtu) : Text :=
  if mtu.valid then formatU64 mtu.value else "UNSPECIFIED"

end Mtu

structure SpeedSetting where
  selection : SpeedSelection := .auto
  /-- Required when the selection is forced, absent when it is automatic. -/
  rate : PortSpeed := .unspecified
  deriving DecidableEq

namespace SpeedSetting

def valid (speed : SpeedSetting) : Bool :=
  if !speed.selection.isValid then false
  else if speed.selection = .auto then !speed.rate.valid
  else speed.rate.valid

def toText (speed : SpeedSetting) : Text :=
  speed.selection.toText ++
    if speed.selection = .forced then text "(" ++ speed.rate.toText ++ text ")" else []

theorem selection_valid {speed : SpeedSetting} (valid : speed.valid = true) :
    speed.selection.isValid = true := by
  unfold SpeedSetting.valid at valid
  split at valid
  · cases valid
  · next legal => simpa using legal

end SpeedSetting

structure AggregationMembership where
  member : Bool := false
  aggregate : AggregateId := .null
  generation : MembershipGeneration := .null
  administrativeParticipation : Bool := false
  deriving DecidableEq

namespace AggregationMembership

def valid (aggregation : AggregationMembership) : Bool :=
  if !aggregation.member then
    !aggregation.aggregate.valid && !aggregation.generation.valid &&
      !aggregation.administrativeParticipation
  else
    aggregation.aggregate.valid && aggregation.generation.valid

def toText (aggregation : AggregationMembership) : Text :=
  if !aggregation.member then
    "NONE"
  else
    aggregation.aggregate.value ++ text "@" ++ aggregation.generation.format ++
      if aggregation.administrativeParticipation then text " participating" else text " passive"

end AggregationMembership

end PortFabric
