import SpinLidar.Binary.Arith
import SpinLidar.Datum
import SpinLidar.Text.Padded
namespace SpinLidar

/-- Why one packet cannot be decoded. A stream of packets skips a packet with such a fault. -/
inductive DecodeError where
  /-- The buffer does not have the model's packet size. -/
  | wrongSize (model : String) (expected got : Nat)
  /-- A block flag names neither bank; the first such block is reported. -/
  | unknownFlag (block flag : Nat)
  /-- The footer's return mode byte is none of the three modes. -/
  | unknownReturnMode (value : Int)
  /-- The footer names the dual return mode on a model that has none. -/
  | dualUnsupported (model : String) (value : Int)
  /-- A sample maps to a channel outside the calibration table. -/
  | channelOutOfRange (channel : Int) (count : Nat)
deriving Repr, DecidableEq

/-- Why a calibration table cannot be built. -/
inductive CalibrationError where
  | empty
  | resolutionNotPositive
  | channelMismatch (model : String) (channels entries : Nat)
  | noRows (file : String)
  | noLaserIdColumn (file : String)
  | nonNumeric (file text : String)
  | laserIdsOutOfOrder (count : Nat) (file : String)
  | noVerticalAngle (file : String)
  | unreadableMarkup (file reason : String) (line column : Nat)
  | noDatabase (file : String)
  | noLaserPoints (file : String)
  | missingPointField (tag : String)
  | intensityLimitsShort (file : String)
  | rootNotMapping
  /-- A field of a YAML calibration has the wrong type or value; no message is given. -/
  | schema
  | noStatusSequence
deriving Repr, DecidableEq

/-- Why a status record of the 64-laser unit is rejected. -/
inductive StatusError where
  | invalidDatetime (year month day hour minute second : Int)
  | unknownGps (code : Nat)
  | invalidReturnType (value : Nat)
  | invalidPowerLevel (code : Int)
deriving Repr, DecidableEq

/-- Why a date and time text cannot be read. -/
inductive ClockError where
  | unreadable (text : String) (position : Nat)
  | monthOutOfRange (text : String)
  | dayOutOfRange (text : String)
  | hourOutOfRange (text : String)
  | minuteOutOfRange (text : String)
  | secondOutOfRange (text : String)
  | zoneHourOutOfRange (text : String)
  | zoneMinuteOutOfRange (text : String)
  | noReference
deriving Repr, DecidableEq

/-- Why a capture file cannot be read. -/
inductive CaptureError where
  | fileHeaderShort
  | badMagic (magic : Nat)
  | recordHeaderShort
  | frameHeaderShort
  | noData
deriving Repr, DecidableEq

/-- The kinds of failure a caller tells apart. -/
inductive FaultKind where
  | unsupportedModel
  | calibration
  | malformedPacket
  | unknownBlockFlag
  | unknownReturnMode
  | invalidChannel
  | status
  | badValue
  | overflow
  | badType
  | missingKey
  | missingFile
  | unsupportedFormat
  | badDocument
  | missingAttribute
  | unknownName
deriving Repr, DecidableEq

namespace FaultKind

def name : FaultKind → String
  | .unsupportedModel => "UnsupportedModel"
  | .calibration => "CalibrationError"
  | .malformedPacket => "MalformedPacket"
  | .unknownBlockFlag => "UnrecognizedBlockFlag"
  | .unknownReturnMode => "UnrecognizedReturnMode"
  | .invalidChannel => "InvalidChannel"
  | .status => "StatusError"
  | .badValue => "ValueError"
  | .overflow => "OverflowError"
  | .badType => "TypeError"
  | .missingKey => "KeyError"
  | .missingFile => "FileNotFoundError"
  | .unsupportedFormat => "NotImplementedError"
  | .badDocument => "YAMLError"
  | .missingAttribute => "AttributeError"
  | .unknownName => "LookupError"

end FaultKind

/-- Why a request fails. -/
inductive Fault where
  | unsupportedModel (given : Datum)
  | decode (e : DecodeError)
  | calibration (e : CalibrationError)
  | status (e : StatusError)
  | clock (e : ClockError)
  | capture (e : CaptureError)
  /-- A text is not a float numeral. -/
  | notAFloat (text : String)
  /-- A float was asked of a missing text. -/
  | floatOfNothing
  /-- A text is not a decimal integer numeral. -/
  | notAnInteger (text : String)
  /-- An integer was asked of a missing text. -/
  | integerOfNothing
  /-- A float without an integer value was converted to an integer. -/
  | integerOfNaN
  | integerOfInfinity
  | missingColumn (name : String)
  | missingFile (name : String)
  | unsupportedFormat
  /-- A YAML document is not well formed; no message is given. -/
  | badDocument
  | blockOutOfRange (count : Nat) (got : Int)
  | returnIndexOutOfRange (got : Int)
  | sequenceOutOfRange (count : Nat) (got : Int)
  | bankOutOfRange (count : Nat) (got : Int)
  | notAReturnMode (value : Int)
  | tooFewWorkers (got : Int)
  | emptySummary
  /-- A status id that is no byte. -/
  | statusIdOutOfRange
  /-- A status value that is no byte. -/
  | statusValueOutOfRange
  /-- A matrix was given with other than sixteen entries. -/
  | cannotReshape (size : Nat)
  /-- Two values of types that have no order between them were compared. -/
  | unorderable (comparison left right : String)
  /-- A value of a type was asked for an attribute it lacks. -/
  | noAttribute (typeName field : String)
  /-- A document named a text codec that is not known. -/
  | unknownCodec (name : String)
  /-- A document named a codec that does not work on text. -/
  | notTextCodec (name : String)
  /-- A document named a codec that spends more than one byte on a character. -/
  | multiByteCodec

namespace DecodeError

def message : DecodeError → String
  | .wrongSize model expected got =>
    model ++ " packets are " ++ toString expected ++ " bytes, got " ++ toString got
  | .unknownFlag block flag =>
    "Block " ++ toString block ++ " has unrecognized flag " ++ Text.hexLiteral 4 flag
  | .unknownReturnMode value => "unrecognized return mode: " ++ Text.hexLiteral 2 value
  | .dualUnsupported model value =>
    model ++ " does not support dual return mode: " ++ Text.hexLiteral 2 value
  | .channelOutOfRange channel count =>
    "Channel " ++ toString channel ++ " is out of range [0, " ++ toString count ++ ")"

def kind : DecodeError → FaultKind
  | .wrongSize .. => .malformedPacket
  | .unknownFlag .. => .unknownBlockFlag
  | .unknownReturnMode .. | .dualUnsupported .. => .unknownReturnMode
  | .channelOutOfRange .. => .invalidChannel

end DecodeError

namespace CalibrationError

def message : CalibrationError → Option String
  | .empty => some "Calibration table has no entries"
  | .resolutionNotPositive => some "distance_resolution_m must be positive"
  | .channelMismatch model channels entries =>
    some (model ++ " has " ++ toString channels ++ " channels, calibration has " ++
      toString entries)
  | .noRows file => some ("No calibration rows in " ++ file)
  | .noLaserIdColumn file => some ("Calibration csv has no laser_id column: " ++ file)
  | .nonNumeric file text =>
    some ("Non numeric value in " ++ file ++ ": could not convert string to float: " ++
      Text.quote text)
  | .laserIdsOutOfOrder count file =>
    some ("Laser ID must be unique from 0-" ++ toString ((count : Int) - 1) ++ " in order: " ++
      file)
  | .noVerticalAngle file => some ("Calibration csv has no vertical angle: " ++ file)
  | .unreadableMarkup file reason line column =>
    some ("Can't parse calibration xml " ++ file ++ ": " ++ reason ++ ": line " ++
      toString line ++ ", column " ++ toString column)
  | .noDatabase file => some ("No DB node in " ++ file)
  | .noLaserPoints file => some ("No laser points in " ++ file)
  | .missingPointField tag => some ("Missing " ++ tag ++ " in calibration point")
  | .intensityLimitsShort file => some ("Intensity limits don't cover every laser: " ++ file)
  | .rootNotMapping => some "Calibration root must be a mapping."
  | .schema => none
  | .noStatusSequence => some "No complete HDL-64E status sequence received yet"

end CalibrationError

namespace StatusError

def message : StatusError → String
  | .invalidDatetime year month day hour minute second =>
    "Invalid status datetime " ++ toString year ++ "-" ++ toString month ++ "-" ++
      toString day ++ " " ++ toString hour ++ ":" ++ toString minute ++ ":" ++ toString second
  | .unknownGps code => "Unknown GPS status code " ++ Text.hexLiteral 2 code
  | .invalidReturnType value => "Invalid return type " ++ toString value
  | .invalidPowerLevel code => "Invalid power level " ++ Text.hexLiteral 2 code

end StatusError

namespace ClockError

def shown (text : String) : String := "\"" ++ text ++ "\""

def message : ClockError → String
  | .unreadable text position =>
    "Error parsing datetime string " ++ shown text ++ " at position " ++ toString position
  | .monthOutOfRange text => "Month out of range in datetime string " ++ shown text
  | .dayOutOfRange text => "Day out of range in datetime string " ++ shown text
  | .hourOutOfRange text => "Hours out of range in datetime string " ++ shown text
  | .minuteOutOfRange text => "Minutes out of range in datetime string " ++ shown text
  | .secondOutOfRange text => "Seconds out of range in datetime string " ++ shown text
  | .zoneHourOutOfRange text =>
    "Timezone hours offset out of range in datetime string " ++ shown text
  | .zoneMinuteOutOfRange text =>
    "Timezone minutes offset out of range in datetime string " ++ shown text
  | .noReference => "reference_datetime must be a valid datetime"

end ClockError

namespace CaptureError

def message : CaptureError → String
  | .fileHeaderShort => "Global Header data is too short."
  | .badMagic _ => "Invalid magic number in pcap file."
  | .recordHeaderShort => "Packet Header data is too short."
  | .frameHeaderShort => "Ethernet 2 Header data is too short."
  | .noData => "No data found in pcap file"

end CaptureError

namespace Fault

def kind : Fault → FaultKind
  | .unsupportedModel _ => .unsupportedModel
  | .decode e => e.kind
  | .calibration _ => .calibration
  | .status _ => .status
  | .floatOfNothing => .badType
  | .integerOfNothing => .badType
  | .integerOfInfinity => .overflow
  | .missingColumn _ => .missingKey
  | .missingFile _ => .missingFile
  | .unsupportedFormat => .unsupportedFormat
  | .badDocument => .badDocument
  | .noAttribute .. => .missingAttribute
  | .unorderable .. => .badType
  | .unknownCodec _ => .unknownName
  | .notTextCodec _ => .unknownName
  | _ => .badValue

def ofIntegerFault : Float.IntegerFault → Fault
  | .notANumber => .integerOfNaN
  | .infinite => .integerOfInfinity

def truncInt (x : Float) : Except Fault Int :=
  (Float.truncInt x).mapError ofIntegerFault

def roundInt (x : Float) : Except Fault Int :=
  (Float.roundInt x).mapError ofIntegerFault

def message : Fault → Option String
  | .unsupportedModel given => some ("Unsupported sensor model: " ++ given.literal)
  | .decode e => some e.message
  | .calibration e => e.message
  | .status e => some e.message
  | .clock e => some e.message
  | .capture e => some e.message
  | .notAFloat text => some ("could not convert string to float: " ++ Text.quote text)
  | .floatOfNothing => some "float() argument must be a string or a real number, not 'NoneType'"
  | .notAnInteger text =>
    some ("invalid literal for int() with base 10: " ++ String.ofList ((Text.quote text).toList.take 200))
  | .integerOfNothing =>
    some "int() argument must be a string, a bytes-like object or a real number, not 'NoneType'"
  | .integerOfNaN => some "cannot convert float NaN to integer"
  | .integerOfInfinity => some "cannot convert float infinity to integer"
  | .missingColumn name => some (Text.quote name)
  | .missingFile name => some ("[Errno 2] No such file or directory: " ++ Text.quote name)
  | .unsupportedFormat => some "Only csv, xml and yaml calibration files are supported"
  | .badDocument => none
  | .blockOutOfRange count got =>
    some ("block_position must be in [0, " ++ toString count ++ "), got " ++ toString got)
  | .returnIndexOutOfRange got => some ("return_index must be 0 or 1, got " ++ toString got)
  | .sequenceOutOfRange count got =>
    some ("sequence must be in [0, " ++ toString count ++ "), got " ++ toString got)
  | .bankOutOfRange count got =>
    some ("bank must be in [0, " ++ toString count ++ "), got " ++ toString got)
  | .notAReturnMode value => some (toString value ++ " is not a valid ReturnMode")
  | .tooFewWorkers got => some ("max_workers must be at least 1, got " ++ toString got)
  | .emptySummary => some "zero-size array to reduction operation maximum which has no identity"
  | .statusIdOutOfRange => some "bytes must be in range(0, 256)"
  | .statusValueOutOfRange => some "byte must be in range(0, 256)"
  | .unorderable comparison left right =>
    some ("'" ++ comparison ++ "' not supported between instances of '" ++ left ++ "' and '" ++ right ++ "'")
  | .noAttribute typeName field =>
    some ("'" ++ typeName ++ "' object has no attribute '" ++ field ++ "'")
  | .cannotReshape size => some ("cannot reshape array of size " ++ toString size ++ " into shape (4,4)")
  | .unknownCodec name => some ("unknown encoding: " ++ name)
  | .notTextCodec name =>
    some (Text.quote name ++ " is not a text encoding; use codecs.decode() to handle arbitrary codecs")
  | .multiByteCodec => some "multi-byte encodings are not supported"

end Fault

end SpinLidar
