import PortFabric.RenderingProperties

/-!
# Properties of the identifier grammar

What the grammar asks of an encoding, and that a composed identifier meets it.
-/

set_option autoImplicit false

namespace PortFabric

/-- The conditions of the identifier grammar. -/
structure Grammatical (value : Text) : Prop where
  bounded : value.length ≤ maxIdentifierLength
  undotted : hasDotDot value = false
  front : ∃ byte, value.head? = some byte ∧ isAlphanumeric byte = true
  back : ∃ byte, value.getLast? = some byte ∧ isAlphanumeric byte = true
  plain : Plain value

theorem validateIdentifier_eq_ok {value : Text} :
    validateIdentifier value = .ok ↔ Grammatical value := by
  constructor
  · intro accepted
    unfold validateIdentifier at accepted
    split at accepted
    · next front back leads ends =>
        repeat' split at accepted
        any_goals cases accepted
        next short undotted leading trailing plain =>
          exact ⟨Nat.not_lt.mp short, by simpa using undotted,
            ⟨front, leads, by simpa using leading⟩, ⟨back, ends, by simpa using trailing⟩,
            List.all_eq_true.mp plain⟩
    · cases accepted
  · intro given
    rcases given with ⟨bounded, undotted, ⟨front, leads, leading⟩, ⟨back, ends, trailing⟩, plain⟩
    have interior : value.all isInterior = true := List.all_eq_true.mpr plain
    simp [validateIdentifier, leads, ends, Nat.not_lt.mpr bounded, undotted, leading, trailing,
      interior]

theorem StrongId.grammatical {domain : IdDomain} {id : StrongId domain} (valid : id.valid = true) :
    Grammatical id.value := by
  rcases id.wellFormed with empty | accepted
  · exact absurd empty (StrongId.valid_iff.mp valid)
  · exact validateIdentifier_eq_ok.mp accepted

theorem StrongId.valid_fromValidated {domain : IdDomain} {value : Text}
    (grammatical : Grammatical value) : (fromValidated value : StrongId domain).valid = true := by
  have accepted := validateIdentifier_eq_ok.mpr grammatical
  obtain ⟨byte, leads, _⟩ := grammatical.front
  rw [StrongId.valid_iff]
  simp only [fromValidated, accepted, dif_pos]
  intro same
  subst same
  cases leads

section Dots

/-- A separator that is no dot lets no traversal sequence arise across it. -/
theorem hasDotDot_separated {first second : Text} {separator : UInt8}
    (separates : separator ≠ 0x2e) :
    hasDotDot (first ++ separator :: second) = (hasDotDot first || hasDotDot second) := by
  have fresh : hasDotDot (separator :: second) = hasDotDot second := by
    cases second with
    | nil => rfl
    | cons next rest => simp [hasDotDot, separates]
  induction first with
  | nil => exact fresh
  | cons byte rest ih =>
      cases rest with
      | nil => simpa [hasDotDot, separates] using fresh
      | cons next others =>
          rw [List.cons_append, List.cons_append, hasDotDot, hasDotDot, ← List.cons_append, ih,
            Bool.or_assoc]

theorem hasDotDot_take {value : Text} (undotted : hasDotDot value = false) (count : Nat) :
    hasDotDot (value.take count) = false := by
  induction value generalizing count with
  | nil => simpa using undotted
  | cons byte rest ih =>
      cases count with
      | zero => rfl
      | succ count =>
          cases rest with
          | nil => simp [hasDotDot]
          | cons next others =>
              simp only [hasDotDot, Bool.or_eq_false_iff] at undotted
              have kept := ih undotted.2 count
              cases count with
              | zero => simp [hasDotDot]
              | succ count =>
                  simp only [List.take_succ_cons] at kept ⊢
                  simp only [hasDotDot, undotted.1, kept, Bool.or_false]

theorem hasDotDot_formatU64 (value : Nat) : hasDotDot (formatU64 value) = false := by
  have decimal : ∀ byte ∈ formatU64 value, isDecimal byte = true :=
    fun _ member => isDecimal_of_mem member
  generalize formatU64 value = digits at decimal
  induction digits with
  | nil => rfl
  | cons digit rest ih =>
      cases rest with
      | nil => rfl
      | cons next others =>
          have apart : digit ≠ 0x2e := by
            intro same
            subst same
            exact absurd (decimal _ List.mem_cons_self) (by decide)
          simp only [hasDotDot, apart, decide_false, Bool.false_and, Bool.false_or]
          exact ih fun byte member => decimal byte (List.mem_cons_of_mem _ member)

end Dots

section Composition

theorem length_formatU64_le {value : Nat} (bounded : value ≤ maxU64) :
    (formatU64 value).length ≤ 20 := by
  rw [formatU64, List.length_map, Nat.length_toDigits_le_iff (by decide) (by decide)]
  exact Nat.lt_of_le_of_lt bounded (by decide)

theorem formatU64_ends (value : Nat) :
    ∃ byte, (formatU64 value).getLast? = some byte ∧ isAlphanumeric byte = true := by
  refine ⟨(formatU64 value).getLast (formatU64_ne_nil value),
    List.getLast?_eq_some_getLast (formatU64_ne_nil value), ?_⟩
  have decimal := isDecimal_of_mem (List.getLast_mem (formatU64_ne_nil value))
  simp only [isDecimal] at decimal
  simp only [isAlphanumeric, decimal, Bool.true_or]

private theorem grammatical_composed {lead middle : Text} {generation : Nat}
    (leads : Grammatical lead) (undotted : hasDotDot middle = false) (plain : Plain middle)
    (bounded : (lead ++ text "-" ++ middle ++ text "-" ++ formatU64 generation).length ≤
      maxIdentifierLength) :
    Grammatical (lead ++ text "-" ++ middle ++ text "-" ++ formatU64 generation) := by
  have dash : text "-" = [0x2d] := by decide
  obtain ⟨front, head, leading⟩ := leads.front
  obtain ⟨back, last, trailing⟩ := formatU64_ends generation
  refine ⟨bounded, ?_, ⟨front, ?_, leading⟩, ⟨back, ?_, trailing⟩, ?_⟩
  · have joined : lead ++ text "-" ++ middle ++ text "-" ++ formatU64 generation =
        lead ++ 0x2d :: (middle ++ 0x2d :: formatU64 generation) := by
      simp [dash]
    rw [joined, hasDotDot_separated (by decide), hasDotDot_separated (by decide), leads.undotted,
      undotted, hasDotDot_formatU64]
    rfl
  · simp [List.head?_append, head]
  · rw [List.getLast?_append, last]
    rfl
  · have separator : Plain (text "-") := by decide
    simp [leads.plain, plain, separator]

/-- A composed identifier keeps to the grammar, also when its identity was folded. -/
theorem grammatical_composeIdentifier {lead identity : Text} {generation : Nat}
    (leads : Grammatical lead) (short : lead.length ≤ 64) (named : Grammatical identity)
    (bounded : generation ≤ maxU64) :
    Grammatical (composeIdentifier lead identity generation) := by
  have dash : (text "-").length = 1 := by decide
  have digits := length_formatU64_le bounded
  have hash : (formatU64 (fnv1a identity).toNat).length ≤ 20 :=
    length_formatU64_le (Nat.le_of_lt_succ (fnv1a identity).toNat_lt)
  unfold composeIdentifier
  dsimp only
  split
  · next fits => exact grammatical_composed leads named.undotted named.plain fits
  · generalize budgeted : maxIdentifierLength - lead.length - 1 -
      (text "-" ++ formatU64 (fnv1a identity).toNat ++ text "-" ++ formatU64 generation).length =
        budget
    have room : budget + lead.length + 3 + (formatU64 (fnv1a identity).toNat).length +
        (formatU64 generation).length = maxIdentifierLength := by
      simp only [List.length_append, dash, maxIdentifierLength] at budgeted ⊢
      omega
    have folded : lead ++ text "-" ++ identity.take budget ++
        (text "-" ++ formatU64 (fnv1a identity).toNat ++ text "-" ++ formatU64 generation) =
          lead ++ text "-" ++ (identity.take budget ++ text "-" ++
            formatU64 (fnv1a identity).toNat) ++ text "-" ++ formatU64 generation := by
      simp only [List.append_assoc]
    have fits : (lead ++ text "-" ++ (identity.take budget ++ text "-" ++
        formatU64 (fnv1a identity).toNat) ++ text "-" ++ formatU64 generation).length ≤
          maxIdentifierLength := by
      have cut : (identity.take budget).length ≤ budget := List.length_take_le _ _
      simp only [List.length_append, dash]
      omega
    rw [folded, truncate, if_neg (Nat.not_lt.mpr fits)]
    have dashed : text "-" = [0x2d] := by decide
    have separator : Plain (text "-") := by decide
    refine grammatical_composed leads ?_ ?_ fits
    · rw [dashed, List.append_assoc, List.singleton_append, hasDotDot_separated (by decide),
        hasDotDot_take named.undotted, hasDotDot_formatU64]
      rfl
    · have taken : Plain (identity.take budget) :=
        fun byte member => named.plain byte (List.mem_of_mem_take member)
      simp [taken, separator]

end Composition

section Texts

/-- Identifier bytes are printable and single-byte encoded. -/
theorem ascii_of_interior {byte : UInt8} (interior : isInterior byte = true) :
    byte < 0x80 ∧ isControl byte = false := by
  simp only [isInterior, isAlphanumeric, isControl, Bool.or_eq_true, Bool.and_eq_true,
    decide_eq_true_eq, ge_iff_le, UInt8.le_iff_toNat_le, UInt8.lt_iff_toNat_lt,
    ← UInt8.toNat_inj, Bool.or_eq_false_iff, decide_eq_false_iff_not] at interior ⊢
  simp only [UInt8.reduceToNat] at interior ⊢
  omega

theorem Plain.validUtf8 {value : Text} (plain : Plain value) : isValidUtf8 value = true := by
  induction value with
  | nil => rfl
  | cons byte rest ih =>
      have single := (ascii_of_interior (plain byte List.mem_cons_self)).1
      unfold isValidUtf8
      rw [if_pos single]
      exact ih fun other member => plain other (List.mem_cons_of_mem _ member)

theorem Plain.validateText {value : Text} {bound : Nat} (plain : Plain value)
    (short : value.length ≤ bound) : validateText value bound = .ok () := by
  have printable : value.any isControl = false := by
    simp only [List.any_eq_false, Bool.not_eq_true]
    exact fun byte member => (ascii_of_interior (plain byte member)).2
  simp [PortFabric.validateText, Nat.not_lt.mpr short, plain.validUtf8, printable]

/-- An identifier is a legal description. -/
theorem StrongId.validateText {domain : IdDomain} (id : StrongId domain) :
    PortFabric.validateText id.value maxDescriptionLength = .ok () := by
  refine id.plain.validateText ?_
  rcases id.wellFormed with empty | accepted
  · simp [empty]
  · exact Nat.le_trans (validateIdentifier_eq_ok.mp accepted).bounded (by decide)

end Texts

end PortFabric
