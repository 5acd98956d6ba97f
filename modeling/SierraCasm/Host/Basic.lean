import SierraCasm.Failure.Basic
import SierraCasm.Log

/-! # What the toolchain asks of its host

The file operations and the log, as a record of actions, so that the same commands run on real
files and on a model of a file system. -/

namespace SierraCasm

/-- The actions of a host. -/
structure Host (m : Type → Type) where
  /-- the contents of a file -/
  readFile : String → m (Except IoFault ByteArray)
  /-- makes a directory and those it lies in, as far as they are missing -/
  makeDirs : String → m (Except IoFault Unit)
  /-- writes a text to a file, which is made if it is missing -/
  writeFile : String → String → m (Except IoFault Unit)
  /-- takes a log entry -/
  log : Log.Entry → m Unit

end SierraCasm
