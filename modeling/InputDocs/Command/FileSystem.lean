/-!
# Command.FileSystem -- files, as far as a run knows them

A run reads and writes files at paths. Which paths there are, which of them lead to one file and
what goes wrong on the way is for the file system to say (`FileSystem`).

What files there are is known of a lawful one (`LawfulFileSystem`): what is read at a path are the
bytes of the file that the path leads to, and a write that succeeds changes that file and no
other. A write that fails may leave anything behind.
-/

namespace InputDocs.Command

set_option autoImplicit false

/-- Why a file cannot be read or written. -/
inductive FileFault where
  | missing
  | isDirectory
  /-- A file stands where the path goes on. -/
  | notDirectory
  | nameTooLong
  | notText
  /-- Any other reason, in the words of the system. -/
  | other (reason : String)
  deriving DecidableEq, Repr

/-- The wording of the fault. -/
def FileFault.message : FileFault → String
  | missing => "No such file or directory (os error 2)"
  | isDirectory => "Is a directory (os error 21)"
  | notDirectory => "Not a directory (os error 20)"
  | nameTooLong => "File name too long (os error 36)"
  | notText => "stream did not contain valid UTF-8"
  | other reason => reason

/-- Files in a state, read and written at paths. -/
class FileSystem (S : Type) where
  read (files : S) (path : String) : Except FileFault ByteArray
  /-- The files after the write, and whether it succeeded. -/
  write (files : S) (path : String) (bytes : ByteArray) : S × Except FileFault Unit

/-- A file system with what its paths lead to. -/
class LawfulFileSystem (S : Type) extends FileSystem S where
  /-- What tells a file from every other, by whichever path it is found. -/
  File : Type
  locate (files : S) (path : String) : Option File
  bytes (files : S) (file : File) : Option ByteArray
  /-- What is read at a path are the bytes of the file there. -/
  bytes_of_read {files : S} {path : String} {found : ByteArray}
    (reads : read files path = .ok found) :
    ∃ file, locate files path = some file ∧ bytes files file = some found
  /-- A path leads to the file that is written there. -/
  locate_of_write {files after : S} {path : String} {new : ByteArray} {file : File}
    (located : locate files path = some file) (writes : write files path new = (after, .ok ())) :
    locate after path = some file
  /-- That file has the new bytes, and every other has the bytes it had. -/
  bytes_of_write {files after : S} {path : String} {new : ByteArray} {file : File}
    (located : locate files path = some file) (writes : write files path new = (after, .ok ())) :
    bytes after file = some new ∧ ∀ other, other ≠ file → bytes after other = bytes files other

/-- Files of which only is known what each path reads: every path is taken for a file of its own. -/
structure Readings where
  read : String → Except FileFault ByteArray

namespace Readings

/-- The readings after bytes are written at a path. -/
def write (readings : Readings) (path : String) (bytes : ByteArray) : Readings where
  read other := if other = path then .ok bytes else readings.read other

variable {readings : Readings} {path other : String} {bytes : ByteArray}

theorem read_write : (readings.write path bytes).read path = .ok bytes := if_pos rfl

theorem read_write_of_ne (apart : other ≠ path) :
    (readings.write path bytes).read other = readings.read other := if_neg apart

instance : LawfulFileSystem Readings where
  read := read
  write readings path bytes := (readings.write path bytes, .ok ())
  File := String
  locate _ path := some path
  bytes readings path := (readings.read path).toOption
  bytes_of_read {_ path _} reads := ⟨path, rfl, congrArg Except.toOption reads⟩
  locate_of_write located _ := located
  bytes_of_write := by
    rintro readings after path new file located writes
    cases located
    cases writes
    exact ⟨congrArg Except.toOption read_write,
      fun other apart => congrArg Except.toOption (read_write_of_ne apart)⟩

end Readings

end InputDocs.Command
