import Pinwire.Application
import Pinwire.Bench.BoardLines
import Pinwire.Bench.BoardSpi

/-!
# The program

A dry run: the program is run with the arguments, the environment and the files of the caller, but
on a fresh board instead of the devices of the machine. Records go to the standard error stream,
each with its level and source; a failure is reported there as well.
-/

namespace Pinwire.Main

def faultOf : IO.Error → Fault
  | .noFileOrDirectory _ code _ => SystemError.fault code.toNat
  | .permissionDenied _ code _ => SystemError.fault code.toNat
  | .inappropriateType _ code _ => SystemError.fault code.toNat
  | error => toString error

/-- The bytes of a file, or why they could not be read. -/
def contentOf (path : String) : IO (Except Fault (List UInt8)) := do
  try
    let content ← IO.FS.readBinFile path
    pure (.ok content.toList)
  catch error =>
    pure (.error (faultOf error))

def filesOf (invocation : Invocation) : List String :=
  let data := match invocation.job with
    | .spiWrite _ _ file _ => file.toList
    | _ => []
  invocation.config.toList ++ data

/-- The files that arguments name, with their contents. -/
def contentsOf (arguments : List String) : IO (List (String × Except Fault (List UInt8))) :=
  match Invocation.parse arguments with
  | .error _ => pure []
  | .ok invocation =>
    (filesOf invocation).mapM fun path => do
      let content ← contentOf path
      pure (path, content)

/-- The content of a path among the contents that were read. -/
def lookUp (contents : List (String × Except Fault (List UInt8))) (path : String) :
    Except Fault (List UInt8) :=
  match contents.find? fun entry => entry.1 == path with
  | some (_, content) => content
  | none => .error (SystemError.fault 2)

end Pinwire.Main

def main (arguments : List String) : IO UInt32 := do
  let contents ← Pinwire.Main.contentsOf arguments
  let filterText ← IO.getEnv "RUST_LOG"
  let surroundings :
      Pinwire.Surroundings Pinwire.Bench.Board String Pinwire.Bench.Board.HeldLines :=
    ⟨.addressSpace, Pinwire.Bench.Board.backend, Pinwire.Bench.Board.host,
      Pinwire.Main.lookUp contents⟩
  let report := Pinwire.Application.run surroundings filterText arguments Pinwire.Bench.Board.fresh
  for record in report.journal do
    IO.eprintln s!"[{record.level.label} {record.source}] {record.text}"
  IO.print report.printed
  match report.ending with
  | .finished => pure ()
  | .failed failure => IO.eprintln failure.report
  | .misused error => if error.printed.isEmpty then IO.eprintln error.message
  pure (UInt32.ofNat report.ending.exitStatus)
