import Pinwire.Bench.FixedLines
import Pinwire.Bench.Loopback
import Pinwire.Bench.MemoryChip
import Pinwire.Bench.PatternLink
import Pinwire.Bench.Probe
import Pinwire.Main
import Pinwire.Proofs.Agreement
import Pinwire.Proofs.Application
import Pinwire.Proofs.Assignment
import Pinwire.Proofs.Line.Custody
import Pinwire.Proofs.Line.Order
import Pinwire.Proofs.Line.Printed
import Pinwire.Proofs.Line.Registers
import Pinwire.Proofs.Line.Settings
import Pinwire.Proofs.Spi.Attempts
import Pinwire.Proofs.Spi.Custody
import Pinwire.Proofs.Spi.Settings
import Pinwire.Proofs.Spi.ThreeWire
import Pinwire.Proofs.Spi.WellFormed
import Pinwire.Proofs.Spi.Wire
import Pinwire.Proofs.Text.HexDump
import Pinwire.Spi.Session
import Pinwire.Proofs.OptionText
import Pinwire.Proofs.Text.HexReading
import Pinwire.Proofs.Line.Option
import Pinwire.Proofs.Spi.Node
