import PortFabric.PersistenceStore

/-!
# Atomic saves

Whatever call of a save fails or is cut short, the container holds its previous
bytes or those of the new state, and a save that succeeds has written the latter.
-/

set_option autoImplicit false

namespace PortFabric

open FilePrograms Program PersistenceStore

variable {platform : FilePlatform} {path other bytes : Text} {files : Files Text UInt8}

theorem temporaryPath_ne (path : Text) : temporaryPath path ≠ path := by
  intro same
  have longer := congrArg List.length same
  rw [temporaryPath, List.length_append] at longer
  exact absurd (Nat.add_eq_left.mp longer) (by decide)

section Frames

/-- What a program does with one file leaves every other file alone. -/
theorem removeFile_avoids (apart : other ≠ path) : (removeFile path).Avoids other :=
  avoids_request apart fun report => by cases report <;> trivial

theorem writeChunks_avoids (apart : other ≠ path) : (writeChunks path bytes).Avoids other := by
  fun_induction writeChunks path bytes with
  | case1 => trivial
  | case2 bytes _ ih =>
      refine avoids_request apart fun report => ?_
      cases report with
      | none => trivial
      | some => exact ih

theorem writeBytes_avoids (apart : other ≠ path) :
    (writeBytes platform path bytes).Avoids other := by
  unfold writeBytes
  split
  · exact writeChunks_avoids apart
  · exact avoids_request apart fun _ => trivial

theorem flushFile_avoids {written : Bool} (apart : other ≠ path) :
    (flushFile path written).Avoids other := by
  cases written with
  | false => trivial
  | true => exact avoids_request apart fun _ => trivial

theorem writeFileFlushed_avoids (apart : other ≠ path) :
    (writeFileFlushed platform path bytes).Avoids other := by
  unfold writeFileFlushed
  dsimp only
  split
  · trivial
  · refine avoids_request apart fun created => ?_
    cases created with
    | none => trivial
    | some =>
        refine (writeBytes_avoids apart).bind fun written =>
          (flushFile_avoids apart).bind fun flushed => ?_
        cases flushed with
        | false => exact ⟨apart, fun _ => trivial⟩
        | true => trivial

end Frames

/-- Reading changes no file, and what it returns is the content of the file. -/
theorem readFileBounded_ensures {always : Files Text UInt8 → Prop} {limit : Nat}
    (now : always files) :
    (readFileBounded platform path limit).Ensures always
      (fun content after => after = files ∧
        ∀ bytes, content.toOption = some bytes → files path = some bytes) files := by
  have fails (error : Outcome) : (done (.error error) : FileProgram (Except Outcome Text)).Ensures
      always (fun content after => after = files ∧
        ∀ bytes, content.toOption = some bytes → files path = some bytes) files :=
    ensures_done now ⟨rfl, fun _ => nofun⟩
  unfold readFileBounded
  dsimp only
  split
  · exact fails _
  · refine ensures_look (fun _ => id) now fun measured looked => ?_
    cases measured with
    | none => exact fails _
    | some size =>
        dsimp only
        split
        · exact fails _
        · refine ensures_look (fun _ => id) now fun opened _ => ?_
          cases opened with
          | none => exact fails _
          | some =>
              refine ensures_look (fun _ => id) now fun content read => ?_
              cases content with
              | none => exact fails _
              | some bytes =>
                  refine ensures_done now ⟨rfl, fun other same => ?_⟩
                  cases same
                  have sized := looked.resolve_left (Option.some_ne_none size)
                  have found := read.resolve_left (Option.some_ne_none bytes)
                  obtain ⟨content, present, length⟩ := Option.map_eq_some_iff.mp sized.symm
                  obtain ⟨again, stored, taken⟩ := Option.bind_eq_some_iff.mp found.symm
                  cases present.symm.trans stored
                  subst length
                  rw [if_pos (Nat.le_refl _), List.take_length] at taken
                  exact present.trans taken

/-- The file holds what it held, or the new bytes. -/
def OldOrNew (path : Text) (old : Option Text) (bytes : Text) (files : Files Text UInt8) : Prop :=
  files path = old ∨ files path = some bytes

section Replacement

variable {source target : Text} {old : Option Text}

/-- A replacement moves the whole source or changes nothing. -/
theorem replace_kept (content : files source = some bytes) (kept : OldOrNew target old bytes files)
    (happening : Happening UInt8) :
    OldOrNew target old bytes ((Primitive.replace source target).perform files happening).1 := by
  have moved : (Primitive.intended files (.replace source target)).1 target = some bytes := by
    simp only [Primitive.intended, content, Function.update_self]
  have either (left : Option Text) (replaced : Bool) : OldOrNew target old bytes
      (Primitive.damaged files left replaced (.replace source target)) := by
    cases replaced with
    | false => exact kept
    | true => exact .inr moved
  cases happening with
  | succeeds => exact .inr moved
  | fails left replaced | stops left replaced => exact either left replaced
  | garbles left => exact either left true

/-- A replacement that reports success took place. -/
theorem replace_moved (content : files source = some bytes) {happening : Happening UInt8}
    (reported : ((Primitive.replace source target).perform files happening).2 =
      some (some ())) :
    ((Primitive.replace source target).perform files happening).1 target = some bytes := by
  have moved : (Primitive.intended files (.replace source target)).1 target = some bytes := by
    simp only [Primitive.intended, content, Function.update_self]
  cases happening with
  | succeeds | garbles => exact moved
  | fails | stops => cases reported

theorem atomicReplaceFile_ensures (content : files source = some bytes)
    (kept : OldOrNew target old bytes files) :
    (atomicReplaceFile platform source target).Ensures (OldOrNew target old bytes)
      (fun replaced after => OldOrNew target old bytes after ∧
        (replaced.isOk = true → after target = some bytes)) files := by
  have refuses {outcome : Outcome} (failed : outcome.isOk = false) {after : Files Text UInt8}
      (kept : OldOrNew target old bytes after) :
      (done outcome : FileProgram Outcome).Ensures (OldOrNew target old bytes)
        (fun replaced after => OldOrNew target old bytes after ∧
          (replaced.isOk = true → after target = some bytes)) after :=
    ensures_done kept ⟨kept, fun succeeded => absurd succeeded (Bool.eq_false_iff.mp failed)⟩
  unfold atomicReplaceFile
  dsimp only
  split
  · next failed => exact refuses ((Bool.not_eq_true' _).mp failed) kept
  · split
    · next failed => exact refuses ((Bool.not_eq_true' _).mp failed) kept
    · refine ensures_request kept (replace_kept content kept) fun happening report reported => ?_
      cases report with
      | none => exact refuses rfl (replace_kept content kept happening)
      | some =>
          have written := replace_moved content reported
          exact ensures_done (.inr written) ⟨.inr written, fun _ => written⟩

/-- The container is what it was or the new one, and the new one after a success. -/
theorem replaceContainer_ensures (platform : FilePlatform) (path bytes : Text)
    (files : Files Text UInt8) :
    (replaceContainer platform path bytes).Ensures (OldOrNew path (files path) bytes)
      (fun outcome after => outcome.isOk = true → after path = some bytes) files := by
  have apart := (temporaryPath_ne path).symm
  have spares {after : Files Text UInt8} {α : Type} {program : FileProgram α}
      (avoids : program.Avoids path) (kept : OldOrNew path (files path) bytes after) :
      program.Ensures (OldOrNew path (files path) bytes)
        (fun _ after => OldOrNew path (files path) bytes after) after :=
    avoids.ensures (fun content => content = files path ∨ content = some bytes) kept
  have abandons {after : Files Text UInt8} {outcome : Outcome} (failed : outcome.isOk = false)
      (kept : OldOrNew path (files path) bytes after) :
      (do let _ ← removeFile (temporaryPath path); return outcome : FileProgram Outcome).Ensures
        (OldOrNew path (files path) bytes)
        (fun outcome after => outcome.isOk = true → after path = some bytes) after :=
    ensures_bind (spares (removeFile_avoids apart) kept) fun _ _ kept =>
      ensures_done kept fun succeeded => absurd succeeded (Bool.eq_false_iff.mp failed)
  unfold replaceContainer
  dsimp only
  refine ensures_bind (spares (removeFile_avoids apart) (.inl rfl)) fun _ _ kept => ?_
  refine ensures_bind (spares (writeFileFlushed_avoids apart) kept) fun written current kept => ?_
  split
  · next failed => exact abandons ((Bool.not_eq_true' _).mp failed) kept
  · refine ensures_bind (readFileBounded_ensures kept) ?_
    intro verify _ given
    rcases given with ⟨rfl, content⟩
    split
    · exact abandons rfl kept
    · next verified =>
        have stored := content bytes (not_not.mp verified)
        refine ensures_bind (atomicReplaceFile_ensures stored kept) ?_
        intro replaced after given
        rcases given with ⟨kept, moved⟩
        split
        · next failed => exact abandons ((Bool.not_eq_true' _).mp failed) kept
        · next succeeded =>
            have moved := moved (by simpa using succeeded)
            exact ensures_done (.inr moved) fun _ => moved

end Replacement

section Refusals

variable {state : PersistedState} {outcome : Outcome}

theorem writeValidated_refusal {α : Type} {validate : α → Except Text Unit} {code : OutcomeCode}
    {lead : Text} {write : ByteWriter → α → ByteWriter} {writer : ByteWriter} {values : List α}
    (refused : writeValidated validate code lead write writer values = .error outcome) :
    outcome.code = code := by
  induction values generalizing writer with
  | nil => cases refused
  | cons value rest ih =>
      rw [writeValidated] at refused
      split at refused
      · cases refused
        rfl
      · exact ih refused

theorem encodePayload_refusal (refused : encodePayload state = .error outcome) :
    outcome.isOk = false := by
  unfold encodePayload at refused
  dsimp only at refused
  split at refused
  · cases refused
    rfl
  · split at refused
    · next other records =>
        cases refused
        simp [Outcome.isOk, writeValidated_refusal records]
    · split at refused
      · cases refused
        rfl
      · split at refused
        · next other profiles =>
            cases refused
            simp [Outcome.isOk, writeValidated_refusal profiles]
        · repeat' split at refused
          all_goals cases refused
          all_goals rfl

theorem encodePersistedState_refusal (refused : encodePersistedState state = .error outcome) :
    outcome.isOk = false := by
  unfold encodePersistedState at refused
  split at refused
  · next payload =>
      cases refused
      exact encodePayload_refusal payload
  · dsimp only at refused
    repeat' split at refused
    all_goals cases refused
    all_goals rfl

end Refusals

section Completion

theorem complete_writeChunks {content : Text} (present : files path = some content) :
    (writeChunks path bytes).complete files =
      (Function.update files path (some (content ++ bytes)), true) := by
  fun_induction writeChunks path bytes generalizing files content with
  | case1 bytes empty =>
      obtain rfl := List.isEmpty_iff.mp empty
      simp [← present]
  | case2 bytes _ ih =>
      rw [complete_bind, complete_append _ present]
      simp only [Option.isNone_some, Bool.false_eq_true, if_false]
      rw [ih (Function.update_self ..), Function.update_idem, List.append_assoc,
        List.take_append_drop]

theorem complete_writeBytes {content : Text} (present : files path = some content) :
    (writeBytes platform path bytes).complete files =
      (Function.update files path (some (content ++ bytes)), true) := by
  unfold writeBytes
  split
  · exact complete_writeChunks present
  · rw [complete_bind, complete_append _ present]
    rfl

theorem complete_writeFileFlushed (valid : (validateFilePath platform path).isOk = true) :
    (writeFileFlushed platform path bytes).complete files =
      (Function.update files path (some bytes), .success "file written and flushed") := by
  have flushed (after : Files Text UInt8) :
      (flushFile path true).complete after = (after, true) := by
    rw [flushFile, if_pos rfl, complete_bind, complete_flush]
    rfl
  simp only [writeFileFlushed, valid, Bool.not_true, Bool.false_eq_true, if_false]
  rw [complete_bind, complete_create]
  simp only [Option.isNone_some, Bool.false_eq_true, if_false]
  rw [complete_bind, complete_writeBytes (Function.update_self ..), complete_bind, flushed,
    Function.update_idem]
  rfl

theorem complete_readFileBounded {limit : Nat}
    (valid : (validateFilePath platform path).isOk = true) (present : files path = some bytes)
    (bounded : bytes.length ≤ limit) :
    (readFileBounded platform path limit).complete files = (files, .ok bytes) := by
  have fits : ¬bytes.length > limit := Nat.not_lt.mpr bounded
  simp only [readFileBounded, valid, Bool.not_true, Bool.false_eq_true, if_false]
  rw [complete_bind, complete_size, present]
  simp only [Option.map_some, fits, if_false]
  rw [complete_bind, complete_openFile, present]
  simp only [Option.map_some, Option.isNone_some, Bool.false_eq_true, if_false]
  rw [complete_bind, complete_read present]
  rfl

theorem complete_removeFile :
    (removeFile path).complete files =
      (Function.update files path none, .success "file removed") := by
  rw [removeFile, complete_bind, complete_remove]
  rfl

theorem complete_atomicReplaceFile {source target : Text}
    (valid : (validateFilePath platform source).isOk = true)
    (valid' : (validateFilePath platform target).isOk = true)
    (present : files source = some bytes) :
    (atomicReplaceFile platform source target).complete files =
      (Function.update (Function.update files source none) target (some bytes),
        .success "container replaced") := by
  simp only [atomicReplaceFile, valid, valid', Bool.not_true, Bool.false_eq_true, if_false]
  rw [complete_bind, complete_replace target present]
  rfl

/-- A state that can be encoded can be saved to a path that is accepted. -/
theorem save_can_succeed {state : PersistedState}
    (valid : (validateFilePath platform path).isOk = true)
    (temporary : (validateFilePath platform (temporaryPath path)).isOk = true)
    (encoded : encodePersistedState state = .ok bytes)
    (bounded : bytes.length ≤ maxPersistenceBytes) :
    ∃ happenings, ((save platform path state).execute happenings files).2 =
      some (.success "durable state written") := by
  obtain ⟨happenings, executed⟩ := exists_execute_complete (save platform path state) files
  refine ⟨happenings, ?_⟩
  have accepted (message : Text) : (Outcome.success message).isOk = true := rfl
  rw [executed]
  simp only [save, valid, encoded, Bool.not_true, Bool.false_eq_true, if_false]
  rw [replaceContainer, complete_bind, complete_removeFile, complete_bind,
    complete_writeFileFlushed temporary]
  simp only [accepted, Bool.not_true, Bool.false_eq_true, if_false]
  rw [complete_bind, complete_readFileBounded temporary (Function.update_self ..) bounded]
  simp only [Except.toOption, ne_eq, not_true_eq_false, if_false]
  rw [complete_bind, complete_atomicReplaceFile temporary valid (Function.update_self ..)]
  simp only [accepted, Bool.not_true, Bool.false_eq_true, if_false]
  rfl

end Completion

/-- What a save returns is what the engine takes it to answer. -/
theorem save_answer {state : PersistedState} {happenings : List (Happening UInt8)}
    {outcome : Outcome}
    (returned : ((save platform path state).execute happenings files).2 = some outcome) :
    ∃ file, outcome =
      savePersistedState state { path := validateFilePath platform path, file } := by
  refine ⟨outcome, ?_⟩
  unfold save at returned
  unfold savePersistedState
  dsimp only at returned ⊢
  split at returned
  · next refused =>
      rw [if_pos refused]
      cases returned
      rfl
  · next accepted =>
      rw [if_neg accepted]
      cases encoded : encodePersistedState state with
      | error failure =>
          simp only [encoded] at returned ⊢
          cases returned
          rfl
      | ok bytes => rfl

/--
Wherever a save fails or is cut short, the file at the path holds its previous
bytes or exactly the encoding of the state, and it holds the latter whenever the
save returns success.
-/
theorem save_all_or_nothing (platform : FilePlatform) (path : Text) (state : PersistedState)
    (happenings : List (Happening UInt8)) (files : Files Text UInt8) :
    (((save platform path state).execute happenings files).1 path = files path ∨
        ∃ bytes, encodePersistedState state = .ok bytes ∧
          ((save platform path state).execute happenings files).1 path = some bytes) ∧
      ∀ outcome, ((save platform path state).execute happenings files).2 = some outcome →
        outcome.isOk = true →
          ∃ bytes, encodePersistedState state = .ok bytes ∧
            ((save platform path state).execute happenings files).1 path = some bytes := by
  unfold save
  dsimp only
  split
  · next refused =>
      refine ⟨.inl rfl, fun outcome returned succeeded => ?_⟩
      cases returned
      simp [succeeded] at refused
  · split
    · next encoded refused =>
        refine ⟨.inl rfl, fun outcome returned succeeded => ?_⟩
        cases returned
        rw [encodePersistedState_refusal refused] at succeeded
        cases succeeded
    · next bytes encoded =>
        obtain ⟨kept, written⟩ := replaceContainer_ensures platform path bytes files happenings
        refine ⟨kept.imp_right fun stored => ⟨bytes, encoded, stored⟩, ?_⟩
        exact fun outcome returned succeeded =>
          ⟨bytes, encoded, written outcome returned succeeded⟩

end PortFabric
