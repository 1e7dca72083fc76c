import Mathlib.Data.List.Dedup
import PortFabric.Guarantees.SyntheticInventory

/-!
# Synthetic devices

The identities that a device's ports are given, which are cut to the bound of an
identifier, and when a device is added with all of its ports.
-/

set_option autoImplicit false

namespace PortFabric

section Digits

theorem formatU64_of_ten_le {value : Nat} (large : 10 ≤ value) :
    ∃ digit, formatU64 value = formatU64 (value / 10) ++ [digit] := by
  refine ⟨UInt8.ofNat (Nat.digitChar (value % 10)).toNat, ?_⟩
  rw [formatU64, Nat.toDigits_of_base_le (by decide) large, List.map_append]
  rfl

theorem length_formatU64_pos (value : Nat) : 0 < (formatU64 value).length :=
  List.length_pos_iff.mpr (formatU64_ne_nil value)

theorem length_formatU64_le_iff {value count : Nat} (positive : 0 < count) :
    (formatU64 value).length ≤ count ↔ value < 10 ^ count := by
  rw [formatU64, List.length_map, Nat.length_toDigits_le_iff (by decide) positive]

/-- The leading digits of a number are those of a quotient. -/
theorem take_formatU64 {count : Nat} (positive : 0 < count) (behind value : Nat)
    (length : (formatU64 value).length = count + behind) :
    (formatU64 value).take count = formatU64 (value / 10 ^ behind) := by
  induction behind generalizing value with
  | zero =>
      rw [Nat.pow_zero, Nat.div_one]
      exact List.take_of_length_le (Nat.le_of_eq length)
  | succ behind ih =>
      have large : 10 ≤ value := by
        by_contra small
        have short : (formatU64 value).length ≤ 1 :=
          (length_formatU64_le_iff Nat.one_pos).mpr (by omega)
        omega
      obtain ⟨digit, same⟩ := formatU64_of_ten_le large
      have shorter : (formatU64 (value / 10)).length = count + behind := by
        rw [same, List.length_append, List.length_singleton] at length
        omega
      rw [same, List.take_append_of_le_length (by omega), ih _ shorter, Nat.div_div_eq_div_mul,
        Nat.pow_succ, Nat.mul_comm]

end Digits

namespace SyntheticFabric

section Identities

/-- The number of a port as it stands in an identity: two digits or more. -/
def portDigits (index : Nat) : Text :=
  (if (formatU64 index).length < 2 then text "0" else []) ++ formatU64 index

theorem composeSyntheticIdentity_eq (deviceText : Text) (index : Nat) :
    composeSyntheticIdentity deviceText index =
      (deviceText ++ 0x2d :: 0x70 :: portDigits index).take maxIdentifierLength := by
  have lead : text "-p" = [0x2d, 0x70] := by decide
  have joined : deviceText ++ text "-p" ++
      (if (formatU64 index).length < 2 then text "0" else []) ++ formatU64 index =
        deviceText ++ 0x2d :: 0x70 :: portDigits index := by
    rw [lead, portDigits]
    simp only [List.append_assoc, List.cons_append, List.nil_append]
  simp only [composeSyntheticIdentity, joined, truncate]
  split
  · rfl
  · next within => exact (List.take_of_length_le (Nat.not_lt.mp within)).symm

theorem length_portDigits (index : Nat) :
    (portDigits index).length = max 2 (formatU64 index).length := by
  have positive := length_formatU64_pos index
  have zero : (text "0").length = 1 := by decide
  unfold portDigits
  split
  · rw [List.length_append, zero]
    omega
  · rw [List.nil_append]
    omega

theorem portDigits_of_two_le {index : Nat} (long : 2 ≤ (formatU64 index).length) :
    portDigits index = formatU64 index := by
  rw [portDigits, if_neg (Nat.not_lt.mpr long), List.nil_append]

theorem portDigits_decimal {index : Nat} {byte : UInt8} (member : byte ∈ portDigits index) :
    isDecimal byte = true := by
  rcases List.mem_append.mp member with padded | digit
  · have zeros : (text "0").all isDecimal = true := by decide
    split at padded
    · exact List.all_eq_true.mp zeros byte padded
    · cases padded
  · exact isDecimal_of_mem digit

/-- The padding does not change the number. -/
theorem portDigits_injective : Function.Injective portDigits := by
  have read (index : Nat) :
      Nat.ofDigitChars 10 ((portDigits index).map fun byte => Char.ofNat byte.toNat) 0 = index := by
    rw [portDigits, List.map_append, map_formatU64, Nat.ofDigitChars_append]
    have padding : Nat.ofDigitChars 10 ((if (formatU64 index).length < 2 then text "0"
        else []).map fun byte => Char.ofNat byte.toNat) 0 = 0 := by
      split
      · decide
      · rfl
    rw [padding, Nat.ofDigitChars_ten_toDigits]
  intro first second same
  rw [← read first, ← read second, same]

theorem hasDotDot_undotted {value : Text} (undotted : ∀ byte ∈ value, byte ≠ 0x2e) :
    hasDotDot value = false := by
  induction value with
  | nil => rfl
  | cons byte rest ih =>
      cases rest with
      | nil => rfl
      | cons next rest =>
          have first := undotted byte List.mem_cons_self
          simp only [hasDotDot, decide_eq_false first, Bool.false_and, Bool.false_or]
          exact ih fun other member => undotted other (List.mem_cons_of_mem _ member)

theorem alphanumeric_of_decimal {byte : UInt8} (decimal : isDecimal byte = true) :
    isAlphanumeric byte = true := by
  simp only [isDecimal] at decimal
  simp only [isAlphanumeric, decimal, Bool.true_or]

/-- An identity goes on as it began, with a `p` and digits behind a separator. -/
theorem grammatical_numbered {name digits : Text} (named : Grammatical name)
    (decimal : ∀ byte ∈ digits, isDecimal byte = true)
    (short : (name ++ 0x2d :: 0x70 :: digits).length ≤ maxIdentifierLength) :
    Grammatical (name ++ 0x2d :: 0x70 :: digits) where
  bounded := short
  undotted := by
    rw [hasDotDot_separated (by decide), named.undotted, Bool.false_or]
    refine hasDotDot_undotted fun byte member => ?_
    rcases List.mem_cons.mp member with rfl | digit
    · decide
    · intro dot
      rw [dot] at digit
      exact absurd (decimal _ digit) (by decide)
  front := by
    obtain ⟨byte, leads, alphanumeric⟩ := named.front
    exact ⟨byte, by rw [List.head?_append, leads]; rfl, alphanumeric⟩
  back := by
    have letter : isAlphanumeric 0x70 = true := by decide
    have ends : (name ++ 0x2d :: 0x70 :: digits).getLast? = (0x70 :: digits).getLast? := by
      rw [List.getLast?_append, List.getLast?_cons_cons, List.getLast?_cons]
      rfl
    rw [ends, List.getLast?_cons]
    refine ⟨_, rfl, ?_⟩
    cases last : digits.getLast? with
    | none => exact letter
    | some byte => exact alphanumeric_of_decimal (decimal byte (List.mem_of_getLast? last))
  plain := by
    intro byte member
    rcases List.mem_append.mp member with before | behind
    · exact named.plain byte before
    · rcases List.mem_cons.mp behind with rfl | behind
      · decide
      · rcases List.mem_cons.mp behind with rfl | digit
        · decide
        · simp only [isInterior, alphanumeric_of_decimal (decimal byte digit), Bool.true_or]

end Identities

section Cuts

theorem fromValidated_malformed {domain : IdDomain} {value : Text}
    (malformed : ¬Grammatical value) : (.fromValidated value : StrongId domain) = .null := by
  rw [StrongId.fromValidated,
    dif_neg fun accepted => malformed (validateIdentifier_eq_ok.mp accepted)]

theorem value_fromValidated {domain : IdDomain} {value : Text} (grammatical : Grammatical value) :
    (.fromValidated value : StrongId domain).value = value := by
  rw [StrongId.fromValidated, dif_pos (validateIdentifier_eq_ok.mpr grammatical)]

/-- What the bound leaves of an identity that has room for its separator and letter. -/
theorem composeSyntheticIdentity_cut {name : Text} (room : name.length ≤ 126) (index : Nat) :
    composeSyntheticIdentity name index =
      name ++ 0x2d :: 0x70 :: (portDigits index).take (126 - name.length) := by
  have left : maxIdentifierLength - name.length = 126 - name.length + 1 + 1 := by
    rw [maxIdentifierLength]
    omega
  rw [composeSyntheticIdentity_eq, List.take_append, left, List.take_succ_cons,
    List.take_succ_cons, List.take_of_length_le (Nat.le_trans room (by decide))]

theorem grammatical_cut {name : Text} (named : Grammatical name) (room : name.length ≤ 126)
    (index : Nat) : Grammatical (composeSyntheticIdentity name index) := by
  rw [composeSyntheticIdentity_cut room]
  refine grammatical_numbered named ?_ ?_
  · exact fun byte member => portDigits_decimal (List.mem_of_mem_take member)
  · rw [List.length_append, List.length_cons, List.length_cons, List.length_take,
      maxIdentifierLength]
    omega

/-- The identity is malformed exactly when the cut leaves the separator at its end. -/
theorem composeSyntheticIdentity_grammatical_iff {name : Text} (named : Grammatical name)
    (index : Nat) : Grammatical (composeSyntheticIdentity name index) ↔ name.length ≠ 127 := by
  have bounded : name.length ≤ 128 := named.bounded
  rcases Nat.lt_trichotomy name.length 127 with below | exactly | above
  · exact iff_of_true (grammatical_cut named (by omega) index) (Nat.ne_of_lt below)
  · refine iff_of_false ?_ fun different => different exactly
    have cut : composeSyntheticIdentity name index = name ++ [0x2d] := by
      rw [composeSyntheticIdentity_eq, List.take_append, exactly,
        List.take_of_length_le (by rw [exactly]; decide)]
      rfl
    intro grammatical
    obtain ⟨byte, ends, alphanumeric⟩ := grammatical.back
    rw [cut, List.getLast?_append] at ends
    cases ends
    exact absurd alphanumeric (by decide)
  · refine iff_of_true ?_ (Nat.ne_of_gt above)
    have full : name.length = maxIdentifierLength := Nat.le_antisymm bounded above
    rw [composeSyntheticIdentity_eq, ← full, List.take_left]
    exact named

/-- The identities of a device's ports keep apart: none is cut, or there is one alone. -/
def Fits (name : Text) (count : Nat) : Prop :=
  name.length + 2 + (portDigits count).length ≤ maxIdentifierLength ∨
    (count = 1 ∧ name.length ≠ 127)

instance (name : Text) (count : Nat) : Decidable (Fits name count) :=
  inferInstanceAs (Decidable (_ ∨ _))

theorem length_portDigits_mono {first second : Nat} (ordered : first ≤ second) :
    (portDigits first).length ≤ (portDigits second).length := by
  have positive := length_formatU64_pos second
  have below := (length_formatU64_le_iff positive).mp (Nat.le_refl (formatU64 second).length)
  have shorter := (length_formatU64_le_iff positive).mpr (Nat.lt_of_le_of_lt ordered below)
  rw [length_portDigits, length_portDigits]
  omega

/-- A cut behind the letter hides the first digit that tells the ports 1 and 2 apart. -/
theorem composeSyntheticIdentity_full {name : Text} (full : 125 ≤ name.length) :
    composeSyntheticIdentity name 1 = composeSyntheticIdentity name 2 := by
  have hidden : ∀ count ≤ 3,
      (0x2d :: 0x70 :: portDigits 1).take count = (0x2d :: 0x70 :: portDigits 2).take count := by
    decide
  rw [composeSyntheticIdentity_eq, composeSyntheticIdentity_eq, List.take_append, List.take_append,
    hidden]
  rw [maxIdentifierLength]
  omega

/-- A number whose last digits are cut away has the identity of a smaller number. -/
theorem composeSyntheticIdentity_collides {name : Text} {count : Nat} (room : name.length < 125)
    (long : maxIdentifierLength < name.length + 2 + (portDigits count).length) :
    ∃ smaller, 1 ≤ smaller ∧ smaller < count ∧
      composeSyntheticIdentity name smaller = composeSyntheticIdentity name count := by
  have digits := length_portDigits count
  have limit : maxIdentifierLength = 128 := rfl
  obtain ⟨kept, left⟩ : ∃ kept, kept = 126 - name.length := ⟨_, rfl⟩
  obtain ⟨behind, length⟩ : ∃ behind, (formatU64 count).length = kept + (behind + 1) :=
    ⟨(formatU64 count).length - kept - 1, by omega⟩
  have leading := take_formatU64 (by omega) (behind + 1) count length
  have size : (formatU64 (count / 10 ^ (behind + 1))).length = kept := by
    rw [← leading, List.length_take, length]
    omega
  have large : 10 ≤ count / 10 ^ (behind + 1) := by
    by_contra small
    have short : (formatU64 (count / 10 ^ (behind + 1))).length ≤ 1 :=
      (length_formatU64_le_iff Nat.one_pos).mpr (by omega)
    omega
  refine ⟨count / 10 ^ (behind + 1), by omega, ?_, ?_⟩
  · refine Nat.div_lt_self ?_ (Nat.one_lt_pow (Nat.succ_ne_zero _) (by decide))
    exact Nat.pos_of_ne_zero fun zero => by simp [zero] at large
  · have whole : portDigits (count / 10 ^ (behind + 1)) = formatU64 (count / 10 ^ (behind + 1)) :=
      portDigits_of_two_le (by omega)
    have cut : portDigits count = formatU64 count := portDigits_of_two_le (by omega)
    rw [composeSyntheticIdentity_cut (by omega), composeSyntheticIdentity_cut (by omega), ← left,
      whole, cut, leading, List.take_of_length_le (Nat.le_of_eq size)]

end Cuts

section Ports

variable {device : DeviceId} {count : Nat}

/-- The identities that the ports of a device are to have. -/
def generatedPorts (device : DeviceId) (count : Nat) : List PortId :=
  (List.range' 1 count).map (generatedPort device)

theorem mem_turns {index : Nat} : index ∈ List.range' 1 count ↔ 1 ≤ index ∧ index ≤ count := by
  rw [List.mem_range'_1]
  omega

theorem generatedPort_valid_iff (valid : device.valid = true) (index : Nat) :
    (generatedPort device index).valid = true ↔ device.value.length ≠ 127 := by
  have named := StrongId.grammatical valid
  rw [← composeSyntheticIdentity_grammatical_iff named index]
  constructor
  · intro accepted
    by_contra malformed
    rw [generatedPort, fromValidated_malformed malformed] at accepted
    cases accepted
  · exact StrongId.valid_fromValidated

theorem generatedPort_inj (valid : device.valid = true) (room : device.value.length ≠ 127)
    {first second : Nat} : generatedPort device first = generatedPort device second ↔
      composeSyntheticIdentity device.value first =
        composeSyntheticIdentity device.value second := by
  have named := StrongId.grammatical valid
  have grammatical (index : Nat) := (composeSyntheticIdentity_grammatical_iff named index).mpr room
  constructor
  · intro same
    have values := congrArg StrongId.value same
    rwa [generatedPort, generatedPort, value_fromValidated (grammatical first),
      value_fromValidated (grammatical second)] at values
  · exact fun same => by rw [generatedPort, generatedPort, same]

/-- Identities that fit are cut nowhere, so their numbers tell them apart. -/
theorem generatedPort_fits (valid : device.valid = true)
    (fits : device.value.length + 2 + (portDigits count).length ≤ maxIdentifierLength)
    {first second : Nat} (left : first ≤ count) (right : second ≤ count)
    (same : generatedPort device first = generatedPort device second) : first = second := by
  have limit : maxIdentifierLength = 128 := rfl
  have room : device.value.length ≠ 127 := by omega
  have shortFirst := length_portDigits_mono left
  have shortSecond := length_portDigits_mono right
  rw [generatedPort_inj valid room, composeSyntheticIdentity_cut (by omega),
    composeSyntheticIdentity_cut (by omega), List.take_of_length_le (by omega),
    List.take_of_length_le (by omega)] at same
  have tails := List.append_cancel_left same
  exact portDigits_injective (List.cons.inj (List.cons.inj tails).2).2

/-- The identities are well formed and different exactly when they fit. -/
theorem generatedPorts_distinct_iff (valid : device.valid = true) (positive : 0 < count) :
    ((generatedPorts device count).Nodup ∧
      ∀ port ∈ generatedPorts device count, port.valid = true) ↔ Fits device.value count := by
  constructor
  · intro distinct
    obtain ⟨nodup, wellFormed⟩ := distinct
    have single : 1 ∈ List.range' 1 count := mem_turns.mpr ⟨Nat.le_refl _, positive⟩
    have room := (generatedPort_valid_iff valid 1).mp
      (wellFormed _ (List.mem_map_of_mem single))
    by_contra unfit
    have several : count ≠ 1 := fun one => unfit (.inr ⟨one, room⟩)
    have long : maxIdentifierLength < device.value.length + 2 + (portDigits count).length :=
      Nat.not_le.mp fun fits => unfit (.inl fits)
    obtain ⟨first, second, before, ordered, within, same⟩ : ∃ first second, 1 ≤ first ∧
        first < second ∧ second ≤ count ∧ composeSyntheticIdentity device.value first =
          composeSyntheticIdentity device.value second := by
      by_cases full : 125 ≤ device.value.length
      · exact ⟨1, 2, Nat.le_refl _, by decide, by omega, composeSyntheticIdentity_full full⟩
      · obtain ⟨smaller, positive, below, same⟩ :=
          composeSyntheticIdentity_collides (Nat.not_le.mp full) long
        exact ⟨smaller, count, positive, below, Nat.le_refl _, same⟩
    have equal := List.inj_on_of_nodup_map nodup (mem_turns.mpr ⟨before, by omega⟩)
      (mem_turns.mpr ⟨by omega, within⟩) ((generatedPort_inj valid room).mpr same)
    omega
  · intro fits
    rcases fits with fits | ⟨rfl, room⟩
    · refine ⟨List.Nodup.map_on ?_ List.nodup_range', ?_⟩
      · intro first left second right same
        exact generatedPort_fits valid fits (mem_turns.mp left).2 (mem_turns.mp right).2 same
      · intro port member
        obtain ⟨index, _, rfl⟩ := List.mem_map.mp member
        have limit : maxIdentifierLength = 128 := rfl
        exact (generatedPort_valid_iff valid index).mpr (by omega)
    · refine ⟨List.nodup_singleton _, ?_⟩
      intro port member
      obtain ⟨index, _, rfl⟩ := List.mem_map.mp member
      exact (generatedPort_valid_iff valid index).mpr room

end Ports

section Devices

variable {fabric : SyntheticFabric} {deviceLabel : Text} {portClass : SyntheticPortClass}
  {portCount : UInt32} {entityClass : PortEntityClass}

/-- The ports of the device that come out well formed. -/
def portsAdded (deviceLabel : Text) (portCount : UInt32) : List PortId :=
  ((generatedPorts (deviceFor deviceLabel) (portsOf portCount)).filter StrongId.valid).dedup

theorem mem_portsAdded {port : PortId} : port ∈ portsAdded deviceLabel portCount ↔
    port.valid = true ∧
      ∃ index ∈ List.range' 1 (portsOf portCount),
        generatedPort (deviceFor deviceLabel) index = port := by
  rw [portsAdded, List.mem_dedup, List.mem_filter, generatedPorts, List.mem_map, and_comm]

theorem find_addDevice (indexed : fabric.Indexed) (valid : (deviceFor deviceLabel).valid = true)
    (port : PortId) :
    (fabric.addDevice deviceLabel portClass portCount entityClass).1.find port =
      if port ∈ portsAdded deviceLabel portCount then
        some (generated (deviceFor deviceLabel) portClass entityClass port)
      else fabric.find port := by
  have counted : ({ fabric with
      devices := fabric.devices.insert (deviceFor deviceLabel) (portsOf portCount) }
      : SyntheticFabric).Indexed := indexed.congr rfl rfl
  rw [addDevice, valid]
  simp only [Bool.not_true, Bool.false_eq_true, if_false, mem_portsAdded]
  exact find_addGenerated counted _ port

/-- The inventory grows by the ports of the device, when it had none of them. -/
theorem portCount_addDevice (indexed : fabric.Indexed)
    (valid : (deviceFor deviceLabel).valid = true)
    (absent : ∀ port ∈ portsAdded deviceLabel portCount, fabric.find port = none) :
    (fabric.addDevice deviceLabel portClass portCount entityClass).1.portCount =
      fabric.portCount + (portsAdded deviceLabel portCount).length := by
  have grown := (indexed.extends_addDevice deviceLabel portClass portCount entityClass).indexed
  have apart : (fabric.portIds ++ portsAdded deviceLabel portCount).Nodup := by
    refine List.Nodup.append indexed.indexes.nodup (List.nodup_dedup _) ?_
    intro port listed added
    have found := (indexed.find_isSome port).mpr listed
    rw [absent port added] at found
    cases found
  have same : (fabric.addDevice deviceLabel portClass portCount entityClass).1.portIds.Perm
      (fabric.portIds ++ portsAdded deviceLabel portCount) := by
    refine (List.perm_ext_iff_of_nodup grown.indexes.nodup apart).mpr fun port => ?_
    have found := grown.find_isSome port
    rw [find_addDevice indexed valid] at found
    rw [List.mem_append, ← indexed.find_isSome port]
    refine found.symm.trans ?_
    split
    · next added => exact iff_of_true rfl (.inr added)
    · next other => simp [other]
  have lengths := same.length_eq
  rw [List.length_append] at lengths
  simpa [portIds, SyntheticFabric.portCount] using lengths

/-- As many ports as were asked for come out exactly when their identities keep apart. -/
theorem length_portsAdded_iff (valid : (deviceFor deviceLabel).valid = true) :
    (portsAdded deviceLabel portCount).length = portsOf portCount ↔
      Fits (deviceFor deviceLabel).value (portsOf portCount) := by
  have positive : 0 < portsOf portCount := by
    unfold portsOf
    split
    · exact Nat.one_pos
    · next several =>
        have nonzero : portCount.toNat ≠ 0 := fun zero =>
          several (.inl (UInt32.toNat_inj.mp zero))
        omega
  have asked : (generatedPorts (deviceFor deviceLabel) (portsOf portCount)).length =
      portsOf portCount := by
    rw [generatedPorts, List.length_map, List.length_range']
  rw [← generatedPorts_distinct_iff valid positive]
  constructor
  · intro full
    have kept : (portsAdded deviceLabel portCount).Sublist
        (generatedPorts (deviceFor deviceLabel) (portsOf portCount)) :=
      (List.dedup_sublist _).trans List.filter_sublist
    have same := kept.eq_of_length (full.trans asked.symm)
    rw [← same]
    refine ⟨List.nodup_dedup _, ?_⟩
    intro port member
    exact (mem_portsAdded.mp member).1
  · intro distinct
    obtain ⟨nodup, wellFormed⟩ := distinct
    rw [portsAdded, List.filter_eq_self.mpr wellFormed, List.dedup_eq_self.mpr nodup]
    exact asked

end Devices

end SyntheticFabric

open SyntheticFabric in
/--
Adding a device to any inventory defines its well-formed ports anew and leaves
every other port alone. Where the inventory had none of them, the number of ports
grows by the number asked for exactly when no identity is cut to the bound of an
identifier, or there is one port and the cut does not end in the separator.
-/
theorem device_added_whole_iff (name : Text) (changes : List SyntheticChange) (deviceLabel : Text)
    (portClass : SyntheticPortClass) (portCount : UInt32) (entityClass : PortEntityClass)
    (valid : (deviceFor deviceLabel).valid = true) :
    let fabric : SyntheticFabric := Runs.run SyntheticFabric.change { name } changes
    let after := (fabric.addDevice deviceLabel portClass portCount entityClass).1
    (∀ port, after.find port =
      if port ∈ portsAdded deviceLabel portCount then
        some (generated (deviceFor deviceLabel) portClass entityClass port)
      else fabric.find port) ∧
    ((∀ port ∈ portsAdded deviceLabel portCount, fabric.find port = none) →
      (after.portCount = fabric.portCount + portsOf portCount ↔
        Fits (deviceFor deviceLabel).value (portsOf portCount))) := by
  intro fabric after
  have indexed : fabric.Indexed := ((Sound.empty name).run changes).1.toIndexed
  refine ⟨find_addDevice indexed valid, ?_⟩
  intro absent
  rw [← length_portsAdded_iff valid, portCount_addDevice indexed valid absent]
  exact Nat.add_left_cancel_iff

/-- Four ports are added to an empty inventory. -/
theorem four_ports_added :
    ((SyntheticFabric.mk (text "lab") [] ∅ ∅ ∅ ∅ .none .first).addDevice "sw1" .spine400G 4
      .syntheticPort).1.portCount = 4 := by
  have whole := (device_added_whole_iff "lab" [] "sw1" .spine400G 4 .syntheticPort (by decide)).2
  refine (whole ?_).mpr (by decide)
  intro port _
  rfl

end PortFabric
