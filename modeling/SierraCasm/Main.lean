import SierraCasm.CommandLine.Run

/-! # The program

The command line on the files of the machine. -/

namespace SierraCasm

/-- Why a file operation failed, as the messages of the program word it. -/
def ioReason : IO.Error → String
  | .noFileOrDirectory .. => "no such file or directory"
  | .inappropriateType .. => "not a directory"
  | .alreadyExists .. => "file exists"
  | .permissionDenied .. => "permission denied"
  | .invalidArgument .. => "invalid argument"
  | error => toString error

/-- Runs a file operation. -/
def fileOperation {α : Type} (operation path : String) (action : IO α) : IO (Except IoFault α) := do
  try
    return .ok (← action)
  catch error =>
    return .error ⟨operation, path, ioReason error⟩

/-- The host that works on the files of the machine. -/
def machine : Host IO where
  readFile path := fileOperation "open" path (IO.FS.readBinFile path)
  makeDirs path := fileOperation "mkdir" path (IO.FS.createDirAll path)
  writeFile path text := fileOperation "open" path (IO.FS.writeFile path text)
  log entry := IO.eprint entry.render

end SierraCasm

/-- Runs a command line; a failure that the command has not reported is shown. -/
def main (arguments : List String) : IO UInt32 := do
  let outcome ← SierraCasm.CommandLine.run SierraCasm.machine arguments
  IO.print outcome.stdout
  IO.eprint outcome.stderr
  match outcome.failure with
  | some e =>
    unless e.isReported do
      IO.eprintln ("Error: " ++ e.message)
      IO.eprintln ("Run '" ++ SierraCasm.CommandLine.programName ++ " --help' for usage.")
  | none => pure ()
  return UInt32.ofNat outcome.exitCode.toNat
