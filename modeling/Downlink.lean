import Downlink.Text.Blank
import Downlink.Text.Utf8
import Downlink.Decimal.Shortest
import Downlink.Decimal.Fixed
import Downlink.Decimal.Reading
import Downlink.Truncation
import Downlink.LittleEndian
import Downlink.Parity
import Downlink.LineCode
import Downlink.Sync
import Downlink.Frame.Header
import Downlink.Frame.PackedField
import Downlink.Frame.SymbolStream
import Downlink.Encoder
import Downlink.Telemetry.Payload
import Downlink.Telemetry.Extremes
import Downlink.Draw
import Downlink.RandomStream
import Downlink.Simulation
import Downlink.Station.File
import Downlink.Sensor.Builtin
import Downlink.Battery
import Downlink.Link
import Downlink.Session
import Downlink.Wave
import Downlink.Console.Program
import Downlink.Main
import Downlink.Proofs.Field.Powers
import Downlink.Proofs.Field.Residue
import Downlink.Proofs.Field.Exponents
import Downlink.Proofs.Parity.Codeword
import Downlink.Proofs.Parity.Distance
import Downlink.Proofs.Frame.Slots
import Downlink.Proofs.Frame.Interleaving
import Downlink.Proofs.LineCode.Decoding
import Downlink.Proofs.Frame.HeaderFields
import Downlink.Proofs.Frame.Receiver
import Downlink.Proofs.Encoder.Session
import Downlink.Proofs.Encoder.Reception
import Downlink.Proofs.LineCode.SubBlocks
import Downlink.Proofs.LineCode.Balance
import Downlink.Proofs.Encoder.Refusal
import Downlink.Proofs.LineCode.Comma
import Downlink.Proofs.Modulator.Counters
import Downlink.Proofs.Encoder.Counters
import Downlink.Proofs.Encoder.Commas
import Downlink.Proofs.Modulator.Samples
import Downlink.Proofs.Modulator.Seams
import Downlink.Proofs.Session.Calls
import Downlink.Proofs.Session.Delivery
import Downlink.Proofs.Session.FrameStep
import Downlink.Proofs.Session.Frames
import Downlink.Proofs.Session.Cycles
import Downlink.Proofs.Session.LowBattery
import Downlink.Proofs.Session.Numbering
import Downlink.Proofs.Session.Lamps
import Downlink.Proofs.Session.Extremes
import Downlink.Proofs.Decimal.Written
import Downlink.Proofs.Station.Description
import Downlink.Proofs.Station.File
import Downlink.Proofs.Telemetry.Comparison
import Downlink.Proofs.Telemetry.Extremes
import Downlink.Proofs.Telemetry.FoldOrder
import Downlink.Proofs.LineCode.Flags
import Downlink.Proofs.Frame.Bursts
import Downlink.Proofs.Parity.Linearity
import Downlink.Proofs.Parity.Calls
import Downlink.Proofs.Frame.HeaderBytes
import Downlink.Proofs.Frame.Superposition
import Downlink.Proofs.Frame.PackedFields
import Downlink.Proofs.Frame.FieldPairs
import Downlink.Proofs.Telemetry.PayloadFields
import Downlink.Proofs.Modulator.Buffers
import Downlink.Proofs.Modulator.Levels
import Downlink.Proofs.Encoder.Levels
import Downlink.Proofs.Morse.Spelling
import Downlink.Proofs.Morse.Decoding
import Downlink.Proofs.Morse.Messages
import Downlink.Proofs.Morse.Skipping
import Downlink.Proofs.Morse.Keying
import Downlink.Proofs.Text.Trimming
import Downlink.Proofs.Text.Editing
import Downlink.Proofs.Station.Lines
import Downlink.Proofs.Station.Leniency
import Downlink.Proofs.Station.Forms
import Downlink.Proofs.Decimal.Unpacked
import Downlink.Proofs.Decimal.Rounding
import Downlink.Proofs.Decimal.Places
import Downlink.Proofs.Station.Position
import Downlink.Proofs.Sensor.Numbers
