import InputDocs.Command.FileSystem
import InputDocs.Manifest

/-!
# Command.Directory -- files by name

A directory holds files under their names, which may have several parts. A name that begins with
a slash goes from the root, any other from where the run starts, and with two dots up from there;
how the two lie to each other is not known.

A path is followed part by part: an empty part or a single dot stays, two dots go up, any other
part goes into a directory or ends at a file.
-/

namespace InputDocs.Command

set_option autoImplicit false

/-- Files by name. -/
structure Directory where
  files : Index ByteArray

namespace Directory

/-- A place on the way along a path: within parts from the root or from the start, given in
reverse, or at a file. -/
inductive Place where
  | inside (rooted : Bool) (parts : List String)
  | file (name : String)

/-- The name of what is at these parts. -/
def nameOf (rooted : Bool) (parts : List String) : String :=
  (if rooted then "/" else "") ++ "/".intercalate parts.reverse

/-- The parts one directory up. Above the root there is nothing. -/
def outer (rooted : Bool) : List String → List String
  | [] => if rooted then [] else [".."]
  | part :: parts => if part = ".." then ".." :: part :: parts else parts

/-- The greatest length of a part of a path, in bytes. -/
def greatestPart : Nat := 255

/-- The greatest length of a path, in bytes. -/
def greatestPath : Nat := 4095

/-- Follow one part of a path. -/
def follow (directory : Directory) (place : Place) (part : String) : Except FileFault Place :=
  match place with
  | .file _ => .error .notDirectory
  | .inside rooted parts =>
    if part = "" ∨ part = "." then .ok place
    else if part = ".." then .ok (.inside rooted (outer rooted parts))
    else if greatestPart < part.utf8ByteSize then .error .nameTooLong
    else
      let name := nameOf rooted (part :: parts)
      if name ∈ directory.files then .ok (.file name)
      else if directory.files.keys.any fun other =>
          (name ++ "/").toList.isPrefixOf other.toList then
        .ok (.inside rooted (part :: parts))
      else .error .missing

/-- The name of the file at a path. -/
def locate (directory : Directory) (path : String) : Except FileFault String := do
  if path = "" then throw .missing
  if greatestPath < path.utf8ByteSize then throw .nameTooLong
  let parts := (path.toList.splitOn '/').map String.ofList
  match ← parts.foldlM directory.follow (.inside (parts.head? = some "") []) with
  | .file name => return name
  | .inside _ _ => throw .isDirectory

/-- The bytes of the file at a path. -/
def read (directory : Directory) (path : String) : Except FileFault ByteArray := do
  let name ← directory.locate path
  return directory.files.getD name ByteArray.empty

/-- Write bytes to the file at a path, which must be there. -/
def write (directory : Directory) (path : String) (bytes : ByteArray) :
    Directory × Except FileFault Unit :=
  match directory.locate path with
  | .ok name => (⟨directory.files.insert name bytes⟩, .ok ())
  | .error fault => (directory, .error fault)

end Directory

end InputDocs.Command
