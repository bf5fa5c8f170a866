import Pinwire.Line.Session

/-!
# Sessions with SPI devices

A session holds any number of devices under numbered handles, some of them as buses, and works on
them one step at a time. Opening under a number first gives up what is held under it.
-/

namespace Pinwire

/-- What a handle of a session holds. -/
inductive SpiHolding where
  | device (device : SpiDevice)
  | bus (bus : SpiBus)
  deriving Repr, DecidableEq

namespace SpiHolding

/-- The device that is held, be it as a bus or not. -/
def toDevice : SpiHolding → SpiDevice
  | .device opened => opened
  | .bus opened => opened.device

/-- What is held as a link: only a bus guards a wire that both directions share. -/
def link {σ : Type} (host : SpiHost σ) (memory : Memory) : SpiHolding → SpiLink σ SpiError
  | .device opened => ⟨opened.transfer host memory⟩
  | .bus opened => opened.link host memory

end SpiHolding

/-- The state of a session: the devices it holds, and the state of its process. -/
structure SpiSession (σ : Type) where
  handles : Handles SpiHolding
  process : SpiProcess σ

/-- A step of a session, on the handle that is given with it. -/
inductive SpiStep where
  | acquire (settings : SpiSettings)
  | acquireOptions (options : List (String × String))
  | setup (settings : SpiSettings)
  | setupOptions (options : List (String × String))
  /-- Opens the bus that a bus file or a text of options describes; the file may not have loaded. -/
  | setupDescription (file : Option (Except BusFileError BusFile)) (options : Option String)
  /-- The chunk limit of the process; no handle is involved. -/
  | processLimit
  /-- The chunk limit that a device was opened with. -/
  | chunkLimit
  | call (call : SpiCall)
  | close
  | drop

namespace SpiSession

variable {σ : Type}

def start (process : SpiProcess σ) : SpiSession σ := ⟨[], process⟩

def dropHandle (host : SpiHost σ) (number : Nat) (session : SpiSession σ) : SpiSession σ :=
  match session.handles.find? number with
  | some holding =>
    ⟨session.handles.erase number, session.process.1, holding.toDevice.drop host session.process.2⟩
  | none => session

/-- Runs a program on the process of a session. -/
def onProcess {ε α : Type} (program : Program (SpiProcess σ) ε α) : Program (SpiSession σ) ε α :=
  .within (·.process) (fun session process => { session with process }) program

def openAs (host : SpiHost σ) (number : Nat) (opening : Program (SpiProcess σ) Failure SpiHolding) :
    Program (SpiSession σ) StepError Reply := do
  .change (dropHandle host number)
  let holding ← onProcess (.mapError .failed opening)
  .change fun session => { session with handles := session.handles.insert number holding }
  pure .nothing

def holdingOf (number : Nat) : Program (SpiSession σ) StepError SpiHolding := do
  let session ← .current
  match session.handles.find? number with
  | some holding => pure holding
  | none => .fail .handleEmpty

def step (host : SpiHost σ) (memory : Memory) (number : Nat) :
    SpiStep → Program (SpiSession σ) StepError Reply
  | .acquire settings =>
    openAs host number (.device <$> .mapError .spi (SpiDevice.acquire host settings))
  | .acquireOptions options =>
    openAs host number <| .mapError .spi do
      let settings ← SpiSettings.ofOptions options
      .device <$> SpiDevice.acquire host settings
  | .setup settings => openAs host number (.bus <$> .mapError .spi (SpiBus.setup host settings))
  | .setupOptions options =>
    openAs host number (.bus <$> .mapError .spi (SpiBus.ofOptions host options))
  | .setupDescription file options =>
    openAs host number do
      let file ← .ofExcept (LineSession.loadedFile .busFile file)
      .bus <$> SpiBus.ofDescription host file options
  | .processLimit =>
    .number <$>
      onProcess (.mapError (fun error => .failed (.spi error)) (SpiDevice.processLimit host))
  | .chunkLimit => do
    let holding ← holdingOf number
    pure (.number holding.toDevice.chunkLimit)
  | .call call => do
    let holding ← holdingOf number
    onProcess (SpiProcess.onHost (.mapError (fun error => .failed (.ofSpiCommand error))
      (call.perform (holding.link host memory))))
  | .close => do
    let holding ← holdingOf number
    .change fun session => { session with handles := session.handles.erase number }
    onProcess (SpiProcess.onHost (.mapError (fun error => .failed (.spi error))
      (holding.toDevice.close host)))
    pure .nothing
  | .drop => do
    let _ ← holdingOf number
    .change (dropHandle host number)
    pure .nothing

/-- Gives up everything that is held, in ascending order of the handles. -/
def finish (host : SpiHost σ) (session : SpiSession σ) : σ :=
  session.handles.foldl (fun world (_, holding) => holding.toDevice.drop host world)
    session.process.2

end SpiSession

end Pinwire
