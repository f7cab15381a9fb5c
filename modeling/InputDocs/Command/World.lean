import InputDocs.Command.FileSystem

/-!
# Command.World -- the effects of a run

A run reads files and standard input, prints, and writes files. It asks the system it is in for
each of these when it comes to it (`System`), so an effect can stand before any other and before a
failure.

One such system is a world that is changed step by step. It keeps the files, what standard input
still holds and a record of what was printed and written, in order.
-/

namespace InputDocs.Command

set_option autoImplicit false

/-- What a program asks of the system it is in. -/
class System (m : Type → Type) where
  readFile (path : String) : m (Except FileFault ByteArray)
  readInput : m ByteArray
  print (text : String) : m Unit
  writeFile (path text : String) : m (Except FileFault Unit)

/-- What a run leaves to be seen. -/
inductive Effect where
  | print (text : String)
  /-- A text is written at a path, whether or not that succeeds. -/
  | write (path text : String)
  deriving DecidableEq, Repr

/-- The text that is printed. -/
def Effect.printed : Effect → String
  | print text => text
  | write _ _ => ""

/-- The world a run takes place in. -/
structure World (S : Type) where
  files : S
  /-- What standard input still holds. -/
  input : ByteArray
  /-- What was printed and written, in order. -/
  effects : List Effect

instance {S : Type} [FileSystem S] : System (StateM (World S)) where
  readFile path world := (FileSystem.read world.files path, world)
  readInput world := (world.input, { world with input := ByteArray.empty })
  print text world := ((), { world with effects := world.effects ++ [.print text] })
  writeFile path text world :=
    let wrote := FileSystem.write world.files path text.toUTF8
    (wrote.2, { world with
      files := wrote.1
      effects := world.effects ++ [.write path text] })

end InputDocs.Command
