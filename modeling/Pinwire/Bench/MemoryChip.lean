import Pinwire.Line.Backend
import Pinwire.Line.States
import Pinwire.Text.Decimal
import Pinwire.Text.Split

/-!
# Chips in memory

A backend that keeps one level for every line number and a log of the calls made to it. Each of its
calls can be told to fail, and lines can be told to give no value. Requests are not kept apart from
each other: any line can be read and driven through any of them.
-/

namespace Pinwire.Bench

/-- The failures that a chip in memory is told to show. -/
structure ChipFaults where
  openChip : Option Fault
  requestLines : Option Fault
  readLines : Option Fault
  writeLines : Option Fault
  /-- Lines that give no value when read. -/
  silent : List LineNumber
  deriving Repr, DecidableEq

namespace ChipFaults

def none : ChipFaults := ⟨.none, .none, .none, .none, []⟩

end ChipFaults

/-- The world of chips in memory. -/
structure MemoryChip where
  faults : ChipFaults
  levels : LineStates
  openChips : Nat
  liveRequests : Nat
  /-- The calls so far, in order. -/
  events : List String

namespace MemoryChip

/-- A world without levels, failures or anything open. -/
def idle : MemoryChip := ⟨.none, .empty, 0, 0, []⟩

def note (chip : MemoryChip) (event : String) : MemoryChip :=
  { chip with events := chip.events ++ [event] }

/-- Answers with a value unless a failure is due. -/
def guarded (fault : Option Fault) (succeed : MemoryChip → α × MemoryChip) (chip : MemoryChip) :
    Except Fault α × MemoryChip :=
  match fault with
  | some fault => (.error fault, chip)
  | none =>
    let (value, chip) := succeed chip
    (.ok value, chip)

/-- The number of a line as events write it. -/
def lineText (line : LineNumber) : String :=
  String.ofList (Text.Decimal.render line.toNat)

def slotText : Slot → String
  | none => "-"
  | some .inactive => "0"
  | some .active => "1"

/-- Words, each after a blank. -/
def spaced (words : List String) : String :=
  String.join (words.map fun word => " " ++ word)

/-- Sets the levels of lines, in order. -/
def setLevels (chip : MemoryChip) (levels : List (LineNumber × PinState)) : MemoryChip :=
  { chip with
    levels := levels.foldl (fun states (line, state) => states.insert line state) chip.levels }

/-- The value that a line gives into a slot. -/
def answer (chip : MemoryChip) (line : LineNumber) (slot : Slot) : Slot :=
  if line ∈ chip.faults.silent then slot
  else match chip.levels.get? line with
    | some state => some state
    | none => slot

def openChip (path : String) (chip : MemoryChip) : Except Fault Unit × MemoryChip :=
  guarded chip.faults.openChip (fun chip => ((), { chip with openChips := chip.openChips + 1 }))
    (chip.note s!"open {path}")

/-- Requests lines, which take on the first state of their configuration. -/
def requestLines (consumer : String) (settings : List (LineNumber × LineConfig))
    (chip : MemoryChip) : Except Fault Unit × MemoryChip :=
  let words := settings.map fun (line, config) => s!"{lineText line}:{config.toByte}"
  let start := settings.map fun (line, config) => (line, config.initial)
  guarded chip.faults.requestLines
    (fun chip => ((), ({ chip with liveRequests := chip.liveRequests + 1 }).setLevels start))
    (chip.note s!"request {consumer}{spaced words}")

def readLines (lines : List LineNumber) (slots : List Slot) (chip : MemoryChip) :
    (Except Fault Unit × List Slot) × MemoryChip :=
  let chip := chip.note s!"read{spaced (lines.map lineText)} into {slots.length} slot(s)"
  match chip.faults.readLines with
  | some fault => ((.error fault, slots), chip)
  | none => ((.ok (), List.zipWith chip.answer lines slots), chip)

def writeLines (lines : List LineNumber) (slots : List Slot) (chip : MemoryChip) :
    Except Fault Unit × MemoryChip :=
  let words := List.zipWith (fun line slot => s!"{lineText line}={slotText slot}") lines slots
  guarded chip.faults.writeLines (fun chip => ((), chip.setLevels (storedStates lines slots)))
    (chip.note s!"write{spaced words} from {slots.length} slot(s)")

def backend : LineBackend MemoryChip Unit Unit where
  openChip := openChip
  requestLines _ consumer settings := requestLines consumer settings
  readLines _ := readLines
  writeLines _ := writeLines
  releaseRequest _ chip :=
    { chip.note "release request" with liveRequests := chip.liveRequests - 1 }
  releaseChip _ chip := { chip.note "release chip" with openChips := chip.openChips - 1 }

end MemoryChip

end Pinwire.Bench
