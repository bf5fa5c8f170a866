import Pinwire.Command

/-!
# Calls on buses

The calls that a bus understands, as values, so that a sequence of them can be written down and
carried out on any bus.
-/

namespace Pinwire

/-- What a call answers with. -/
inductive Reply where
  | nothing
  | state (state : PinState)
  | states (states : List PinState)
  | bytes (bytes : List UInt8)
  | text (text : String)
  | number (value : Nat)
  deriving Repr, DecidableEq

/-- A call on a line bus. -/
inductive LineCall where
  | get (lines : List LineNumber)
  | set (states : LineStates)
  | getOne (line : LineNumber)
  | setOne (line : LineNumber) (state : PinState)
  | printStates (lines : List LineNumber)
  | assign (items : List String)

namespace LineCall

def perform {σ ε : Type} (bus : LineBus σ ε) : LineCall → Program σ (CommandError ε) Reply
  | get lines => .states <$> .mapError .bus (bus.get lines)
  | set states => (fun _ => .nothing) <$> .mapError .bus (bus.set states)
  | getOne line => .state <$> .mapError .bus (bus.getOne line)
  | setOne line state => (fun _ => .nothing) <$> .mapError .bus (bus.setOne line state)
  | printStates lines => .text <$> bus.printStates lines
  | assign items => (fun _ => .nothing) <$> bus.assign items

end LineCall

/-- A call on an SPI bus. -/
inductive SpiCall where
  | transaction (output : Option (List UInt8)) (inLength : Nat) (chunked : Bool)
  | read (count : Nat)
  | write (bytes : List UInt8) (chunked : Bool)
  | writeByte (byte : UInt8)
  | printRead (count : Nat)
  | writeText (text : String) (chunked : Bool)
  | printExchange (text : String) (inLength : Nat) (chunked : Bool)
  deriving Repr

namespace SpiCall

def perform {σ ε : Type} (link : SpiLink σ ε) : SpiCall → Program σ (CommandError ε) Reply
  | transaction output inLength chunked =>
    .bytes <$> .mapError .bus (link.transaction output inLength chunked)
  | read count => .bytes <$> .mapError .bus (link.read count)
  | write bytes chunked => (fun _ => .nothing) <$> .mapError .bus (link.write bytes chunked)
  | writeByte byte => (fun _ => .nothing) <$> .mapError .bus (link.writeByte byte)
  | printRead count => .text <$> link.printRead count
  | writeText text chunked => do
    let bytes ← SpiLink.readBytes text
    link.writeBytes bytes chunked
    pure .nothing
  | printExchange text inLength chunked => do
    let bytes ← SpiLink.readBytes text
    .text <$> link.printExchange bytes inLength chunked

end SpiCall

end Pinwire
