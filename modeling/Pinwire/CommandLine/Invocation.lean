import Pinwire.CommandLine.Parser
import Pinwire.Line.Config

/-!
# Invocations

What a user can ask the program for: to read or drive lines, and to read from, write to or exchange
bytes with an SPI device; with options that describe the bus, a bus file, and how much to say on the
way.
-/

namespace Pinwire

/-- A job that the program carries out on a bus. -/
inductive Job where
  | readLines (options : Option String) (lines : List LineNumber)
  | driveLines (options : Option String) (assignments : List String)
  | spiRead (options : Option String) (count : Nat)
  /-- The bytes come from a file if one is named, and from the text otherwise. -/
  | spiWrite (options : Option String) (data file : Option String) (chunked : Bool)
  | spiExchange (options : Option String) (data : String) (inLength : Nat) (chunked : Bool)
  deriving Repr, DecidableEq

/-- What the command line asks for. -/
structure Invocation where
  job : Job
  verbosity : Nat
  /-- The path of the bus file. -/
  config : Option String
  deriving Repr, DecidableEq

namespace Invocation

open CommandLine

def everywhere : List OptionSpec := [
  ⟨"verbose", some 'v', .counter⟩,
  ⟨"config", some 'c', .valued .path⟩,
  ⟨"help", some 'h', .help⟩]

def deviceOption : OptionSpec := ⟨"dev", some 'd', .valued .text⟩

/-- The option to keep messages within the driver's buffer. -/
def chunkedOption : OptionSpec := ⟨"chunked", none, .switch⟩

/-- The level of a group below the program itself. -/
def groupLevel : LevelSpec := ⟨everywhere, [], []⟩

def lineCommands : CommandSpec :=
  .group "gpio" groupLevel [
    .command "get" ⟨deviceOption :: everywhere, [⟨"lines", .word, true⟩], [.present "lines"]⟩,
    .command "set" ⟨deviceOption :: everywhere, [⟨"assignments", .text, true⟩],
      [.present "assignments"]⟩]

def spiCommands : CommandSpec :=
  .group "spi" groupLevel [
    .command "read" ⟨deviceOption :: everywhere, [⟨"count", .size, false⟩], [.present "count"]⟩,
    .command "write"
      ⟨deviceOption :: ⟨"file", some 'f', .valued .path⟩ :: chunkedOption :: everywhere,
        [⟨"data", .text, false⟩], [.apart "file" "data", .presentUnless "data" "file"]⟩,
    .command "xfer"
      ⟨deviceOption :: ⟨"read", some 'r', .valued .size⟩ :: chunkedOption :: everywhere,
        [⟨"data", .text, false⟩], [.present "data"]⟩]

def grammar : CommandSpec :=
  .group "linbus" ⟨⟨"version", some 'V', .version⟩ :: everywhere, [], []⟩
    [lineCommands, spiCommands]

def jobOf? (reading : Reading) : Option Job :=
  let options := reading.text? "dev"
  match reading.path with
  | ["gpio", "get"] => some (.readLines options ((reading.numbers "lines").map UInt32.ofNat))
  | ["gpio", "set"] => some (.driveLines options (reading.texts "assignments"))
  | ["spi", "read"] => (reading.number? "count").map fun count => .spiRead options count
  | ["spi", "write"] =>
    some (.spiWrite options (reading.text? "data") (reading.text? "file") (reading.isOn "chunked"))
  | ["spi", "xfer"] =>
    (reading.text? "data").map fun data =>
      .spiExchange options data ((reading.number? "read").getD 0) (reading.isOn "chunked")
  | _ => none

def ofReading (reading : Reading) : Except UsageError Invocation :=
  match jobOf? reading with
  | some job => .ok ⟨job, reading.count "verbose", reading.text? "config"⟩
  | none => .error .commandMissing

def parse (arguments : List String) : Except UsageError Invocation :=
  (read grammar arguments).bind ofReading

end Invocation

end Pinwire
