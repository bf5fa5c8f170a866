import Pinwire.Failure
import Pinwire.OptionText

/-!
# Opening buses

A bus is described by a text of options or by a bus file. Options win over the file.
-/

namespace Pinwire

namespace LineRequest

variable {σ Chip Request : Type}

def ofOptions (backend : LineBackend σ Chip Request) (memory : Memory)
    (options : List (String × String)) : Program σ LineError (LineRequest Chip Request) := do
  let settings ← LineSettings.ofOptions options
  setup backend memory settings

/-- Opens the line bus that a text of options, or else a bus file, describes. -/
def ofDescription (backend : LineBackend σ Chip Request) (memory : Memory)
    (file : Option BusFile) (options : Option String) :
    Program σ Failure (LineRequest Chip Request) :=
  match options, file.bind BusFile.lineSettings with
  | some text, _ => .mapError .line (ofOptions backend memory (OptionText.parse text))
  | none, some settings => .mapError .line (setup backend memory settings)
  | none, none => .fail .lineBusUndescribed

end LineRequest

namespace SpiBus

variable {σ : Type}

def ofOptions (host : SpiHost σ) (options : List (String × String)) :
    Program (SpiProcess σ) SpiError SpiBus := do
  let settings ← SpiSettings.ofOptions options
  setup host settings

/-- The settings of the SPI bus that a bus file describes, if there is a file and it does. -/
def settingsOfFile : Option BusFile → Except BusFileError (Option SpiSettings)
  | none => .ok none
  | some file => file.spiSettings

/-- Opens the SPI bus that a text of options, or else a bus file, describes. A file that describes
an impossible bus is refused even when there are options. -/
def ofDescription (host : SpiHost σ) (file : Option BusFile) (options : Option String) :
    Program (SpiProcess σ) Failure SpiBus := do
  let fromFile ← .ofExcept ((settingsOfFile file).mapError .busFile)
  match options, fromFile with
  | some text, _ => .mapError .spi (ofOptions host (OptionText.parse text))
  | none, some settings => .mapError .spi (setup host settings)
  | none, none => .fail .spiBusUndescribed

end SpiBus

end Pinwire
