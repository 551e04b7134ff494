import SpinLidar.Binary.Basic
import SpinLidar.Binary.Arith
import SpinLidar.Decimal.Shortest
import SpinLidar.Decimal.Format
import SpinLidar.Text.RangeTable
import SpinLidar.Text.LetterOrDigit
import SpinLidar.Text.Printable
import SpinLidar.Text.Digit
import SpinLidar.Text.Blank
import SpinLidar.Text.Quoted
import SpinLidar.Text.Padded
import SpinLidar.Text.Numeral
import SpinLidar.Datum
import SpinLidar.Fault
import SpinLidar.Sensor
import SpinLidar.ReturnMode
import SpinLidar.Packet.Basic
import SpinLidar.Packet.Parse
import SpinLidar.Firing
import SpinLidar.Markup.Names
import SpinLidar.Markup.Element
import SpinLidar.Markup.Scanner
import SpinLidar.Markup.Encoding
import SpinLidar.Markup.Declaration
import SpinLidar.Markup.Document
import SpinLidar.Yaml.Scanner
import SpinLidar.Yaml.Node
import SpinLidar.Yaml.Compose
import SpinLidar.Yaml.Construct
import SpinLidar.Calibration.Basic
import SpinLidar.Calibration.Csv
import SpinLidar.Calibration.Xml
import SpinLidar.Calibration.Yaml
import SpinLidar.Calibration.Bundled
import SpinLidar.Calibration.Load
import SpinLidar.Point.Geometry
import SpinLidar.Point.Synthesis
import SpinLidar.Decoder
import SpinLidar.Clock
import SpinLidar.Status.Report
import SpinLidar.Status.Accumulator
import SpinLidar.Status.Sequence
import SpinLidar.Decimal.Round
import SpinLidar.Point.Summary
import SpinLidar.Point.Extrinsic
import SpinLidar.Capture.Basic
import SpinLidar.Capture.Read
import SpinLidar.Capture.Points
import SpinLidar.Command.Summarize
import SpinLidar.Command.Literal
import SpinLidar.Command.Flags
import SpinLidar.Main
import SpinLidar.Proofs.PacketLayout
import SpinLidar.Proofs.DecodeFaults
import SpinLidar.Proofs.Emission
import SpinLidar.Proofs.FiringTimes
import SpinLidar.Proofs.PipelineWindow
import SpinLidar.Proofs.PacketStreams
import SpinLidar.Proofs.StatusSteps
import SpinLidar.Proofs.StatusCycles
import SpinLidar.Proofs.StatusSequence
import SpinLidar.Proofs.StatusRecovery
import SpinLidar.Proofs.StatusFrame
import SpinLidar.Proofs.StatusBounds
import SpinLidar.Proofs.StatusRefusals
import SpinLidar.Proofs.ReturnSelection
import SpinLidar.Proofs.CalibrationLoading
import SpinLidar.Proofs.Rounding
import SpinLidar.Proofs.FloatArith
import SpinLidar.Proofs.FloatRemainder
import SpinLidar.Proofs.RowValues
import SpinLidar.Proofs.AzimuthSweep
import SpinLidar.Proofs.HourPlacement
import SpinLidar.Proofs.FloatOverflow
import SpinLidar.Proofs.FloatDivision
import SpinLidar.Proofs.IntensityClip
