import PortFabric.Library.FilePrograms
import PortFabric.Persistence

/-!
# Persistence store

The durable write of a container as a program over the file system: a temporary
file is written, flushed and read back before it replaces the container.
-/

set_option autoImplicit false

namespace PortFabric

open FilePrograms Program

/-- The two builds of the platform layer, and what they ask of the file system's paths. -/
structure FilePlatform where
  windows : Bool
  /-- A component of the path is a traversal. -/
  traverses : Text → Bool
  parentExists : Text → Bool
  /-- Attaches the last error of the system, on Windows. -/
  errorText : Text → Text

abbrev FileProgram (α : Type) : Type := Program Text UInt8 α

section Platform

variable (platform : FilePlatform)

def validateFilePath (path : Text) : Outcome :=
  if path.isEmpty then
    .failure .malformedRequest "the file path is empty"
  else if path.length > 4096 then
    .failure .resourceBoundExceeded "the file path is too long"
  else if path.any isControl then
    .failure .malformedRequest "the file path contains a control character"
  else if platform.traverses path then
    .failure .malformedRequest "the file path contains a traversal component"
  else if !platform.parentExists path then
    .failure .persistenceIoFailure "the parent directory of the path does not exist"
  else
    .success "path accepted"

def removeFile (path : Text) : FileProgram Outcome := do
  let removed ← request (.remove path)
  if removed.isNone then
    return .failure .persistenceIoFailure "the file could not be removed"
  else
    return .success "file removed"

/-- The bytes of one write call of the chunked loop. -/
def writeChunkBytes : Nat := 1048576

def writeChunks (path bytes : Text) : FileProgram Bool :=
  if bytes.isEmpty then
    return true
  else do
    let written ← request (.append path (bytes.take writeChunkBytes))
    if written.isNone then
      return false
    else
      writeChunks path (bytes.drop writeChunkBytes)
termination_by bytes.length
decreasing_by
  have room : 0 < writeChunkBytes := by decide
  have some : 0 < bytes.length := List.length_pos_iff.mpr (by simpa using ‹¬bytes.isEmpty = true›)
  rw [List.length_drop]
  omega

/-- Writes chunk by chunk on Windows and with one call elsewhere. -/
def writeBytes (path bytes : Text) : FileProgram Bool :=
  if platform.windows then
    writeChunks path bytes
  else do
    let written ← request (.append path bytes)
    return written.isSome

/-- Flushes a file that was written. -/
def flushFile (path : Text) (written : Bool) : FileProgram Bool :=
  if written then do
    let flushed ← request (.flush path)
    return flushed.isSome
  else
    return false

def writeFileFlushed (path bytes : Text) : FileProgram Outcome :=
  let check := validateFilePath platform path
  if !check.isOk then
    return check
  else do
    let created ← request (.create path)
    if created.isNone then
      return .failure .persistenceIoFailure (platform.errorText "the file could not be created")
    else
      let written ← writeBytes platform path bytes
      let flushed ← flushFile path written
      if !flushed then
        let _ ← request (.remove path)
        return .failure .persistenceIoFailure "the file could not be written"
      else
        return .success "file written and flushed"

def readFileBounded (path : Text) (limit : Nat) : FileProgram (Except Outcome Text) :=
  let check := validateFilePath platform path
  if !check.isOk then
    return .error check
  else do
    let measured ← request (.size path)
    match measured with
    | none =>
        return .error (.failure .persistenceIoFailure "the file size could not be read")
    | some size =>
        if size > limit then
          return .error (.failure .persistenceBoundsExceeded
            "the file exceeds the configured byte bound")
        else
          let opened ← request (.openFile path)
          if opened.isNone then
            return .error (.failure .persistenceIoFailure
              (platform.errorText
                (if platform.windows then text "the file could not be opened for reading"
                 else text "the file could not be opened")))
          else
            let content ← request (.read path size)
            match content with
            | none =>
                return .error (.failure .persistenceIoFailure "the file could not be read")
            | some bytes => return .ok bytes

def atomicReplaceFile (source target : Text) : FileProgram Outcome :=
  let sourceCheck := validateFilePath platform source
  let targetCheck := validateFilePath platform target
  if !sourceCheck.isOk then
    return sourceCheck
  else if !targetCheck.isOk then
    return targetCheck
  else do
    let replaced ← request (.replace source target)
    if replaced.isNone then
      return .failure .persistenceIoFailure
        (platform.errorText "the container could not be replaced atomically")
    else
      return .success "container replaced"

end Platform

namespace PersistenceStore

variable (platform : FilePlatform)

def temporaryPath (path : Text) : Text := path ++ text ".pftmp"

/-- Writes the temporary file, reads it back and lets it replace the container. -/
def replaceContainer (path bytes : Text) : FileProgram Outcome := do
  let temporary := temporaryPath path
  let _ ← removeFile temporary
  let written ← writeFileFlushed platform temporary bytes
  if !written.isOk then
    let _ ← removeFile temporary
    return written
  else
    let verify ← readFileBounded platform temporary maxPersistenceBytes
    if verify.toOption ≠ some bytes then
      let _ ← removeFile temporary
      return .failure .persistenceIoFailure "the temporary container failed verification"
    else
      let replaced ← atomicReplaceFile platform temporary path
      if !replaced.isOk then
        let _ ← removeFile temporary
        return replaced
      else
        return .success "durable state written"

def save (path : Text) (state : PersistedState) : FileProgram Outcome :=
  let check := validateFilePath platform path
  if !check.isOk then
    return check
  else
    match encodePersistedState state with
    | .error encoded => return encoded
    | .ok bytes => replaceContainer platform path bytes

end PersistenceStore

end PortFabric
