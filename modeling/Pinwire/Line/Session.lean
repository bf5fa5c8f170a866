import Pinwire.Buses
import Pinwire.Call
import Pinwire.Handles

/-!
# Sessions with line requests

A session holds any number of requests under numbered handles and works on them one step at a time.
Opening under a number first gives back what is held under it.
-/

namespace Pinwire

/-- The state of a session: the requests it holds, and the backend's world. -/
structure LineSession (σ Chip Request : Type) where
  handles : Handles (LineRequest Chip Request)
  world : σ

/-- A step of a session, on the handle that is given with it. -/
inductive LineStep where
  /-- Requests lines with configurations, both in the order given. -/
  | acquire (device consumer : String) (lines : List LineNumber) (configs : List LineConfig)
  | setup (settings : LineSettings)
  | setupOptions (options : List (String × String))
  /-- Opens the bus that a bus file or a text of options describes; the file may not have loaded. -/
  | setupDescription (file : Option (Except BusFileError BusFile)) (options : Option String)
  /-- Drives lines to the states at the same places. -/
  | drive (lines : List LineNumber) (states : List PinState)
  | countLines
  | call (call : LineCall)
  | close
  | drop

/-- Why a step of a session failed. -/
inductive StepError where
  /-- Nothing is held under the handle. -/
  | handleEmpty
  | failed (failure : Failure)
  deriving Repr, DecidableEq

namespace LineSession

variable {σ Chip Request : Type}

def start (world : σ) : LineSession σ Chip Request := ⟨[], world⟩

def dropHandle (backend : LineBackend σ Chip Request) (number : Nat)
    (session : LineSession σ Chip Request) : LineSession σ Chip Request :=
  match session.handles.find? number with
  | some request => ⟨session.handles.erase number, request.release backend session.world⟩
  | none => session

def openAs (backend : LineBackend σ Chip Request) (number : Nat)
    (opening : Program σ Failure (LineRequest Chip Request)) :
    Program (LineSession σ Chip Request) StepError Reply := do
  .change (dropHandle backend number)
  let request ← .within (·.world) (fun session world => { session with world })
    (.mapError .failed opening)
  .change fun session => { session with handles := session.handles.insert number request }
  pure .nothing

/-- Runs a program on the request under a handle. -/
def onRequest {α : Type} (number : Nat)
    (program : Program (LineRequest Chip Request × σ) Failure α) :
    Program (LineSession σ Chip Request) StepError α := do
  let session ← .current
  match session.handles.find? number with
  | none => .fail .handleEmpty
  | some request =>
    .within (fun session => (request, session.world))
      (fun session (request, world) => ⟨session.handles.insert number request, world⟩)
      (.mapError .failed program)

def loadedFile {ε : Type} (wrap : BusFileError → ε) :
    Option (Except BusFileError BusFile) → Except ε (Option BusFile)
  | none => .ok none
  | some content => (content.mapError wrap).map some

def step (backend : LineBackend σ Chip Request) (memory : Memory) (number : Nat) :
    LineStep → Program (LineSession σ Chip Request) StepError Reply
  | .acquire device consumer lines configs =>
    openAs backend number
      (.mapError .line (LineRequest.acquire backend memory device consumer lines configs))
  | .setup settings =>
    openAs backend number (.mapError .line (LineRequest.setup backend memory settings))
  | .setupOptions options =>
    openAs backend number (.mapError .line (LineRequest.ofOptions backend memory options))
  | .setupDescription file options =>
    openAs backend number do
      let file ← .ofExcept (loadedFile .busFile file)
      LineRequest.ofDescription backend memory file options
  | .drive lines states =>
    (fun _ => .nothing) <$>
      onRequest number (.mapError .line (LineRequest.set backend lines states))
  | .countLines =>
    onRequest number ((fun (request, _) => .number request.lineCount) <$> .current)
  | .call call =>
    onRequest number
      (.mapError .ofLineCommand (call.perform (LineRequest.bus backend memory)))
  | .close => do
    let session ← .current
    match session.handles.find? number with
    | none => .fail .handleEmpty
    | some request =>
      .within (·.world) (fun session world => ⟨session.handles.erase number, world⟩)
        (request.close backend)
      pure .nothing
  | .drop => do
    let session ← .current
    match session.handles.find? number with
    | none => .fail .handleEmpty
    | some _ =>
      .change (dropHandle backend number)
      pure .nothing

/-- Gives back everything that is held, in ascending order of the handles. -/
def finish (backend : LineBackend σ Chip Request) (session : LineSession σ Chip Request) : σ :=
  session.handles.foldl (fun world (_, request) => request.release backend world) session.world

end LineSession

end Pinwire
