import CssColor.Alpha
import CssColor.Color.Conversion
import CssColor.Color.Library
import CssColor.Color.Reading
import CssColor.CommandLine.Run
import CssColor.Conversion
import CssColor.Declaration.Scan
import CssColor.Depths
import CssColor.Disk.Basic
import CssColor.Edit
import CssColor.Fault
import CssColor.Json.Printer
import CssColor.Json.Reader
import CssColor.Main
import CssColor.Offset
import CssColor.Options
import CssColor.Rendering
import CssColor.Record
import CssColor.Result
import CssColor.Settings.File
import CssColor.Target
import CssColor.Text.Line
import CssColor.Text.Utf8
import CssColor.Value.Literal
import CssColor.Yaml.Document
import CssColor.Proofs.Grammar
import CssColor.Proofs.Leftmost
import CssColor.Proofs.Conversion
import CssColor.Proofs.OnePass
import CssColor.Proofs.Region
import CssColor.Proofs.Boundary
import CssColor.Proofs.Idempotence
import CssColor.Proofs.Accounting
import CssColor.Proofs.Absorption
import CssColor.Proofs.Recognition
import CssColor.Proofs.LetterCase
import CssColor.Proofs.Double
import CssColor.Proofs.Magnitude
import CssColor.Proofs.Numeral
import CssColor.Proofs.ExactValue
import CssColor.Proofs.PlainNumber
import CssColor.Proofs.DecimalPlaces
import CssColor.Proofs.NearestDouble
import CssColor.Proofs.ShortestDigits
import CssColor.Proofs.CanonicalNumber
import CssColor.Proofs.DoubleReading
import CssColor.Proofs.Rereading
import CssColor.Proofs.Notation
import CssColor.Proofs.Components
import CssColor.Proofs.Encoding
import CssColor.Proofs.Overwriting
import CssColor.Proofs.Preparation
import CssColor.Proofs.FileSafety
import CssColor.Proofs.SettingsFaults
import CssColor.Proofs.WholeNumber
import CssColor.Proofs.Ending
import CssColor.Proofs.Replacement
import CssColor.Proofs.Unambiguity
import CssColor.Proofs.MessageSwitches
import CssColor.Proofs.Messages
import CssColor.Proofs.AlphaReading
import CssColor.Proofs.Opacity
import CssColor.Proofs.Except
import CssColor.Proofs.RoundedArithmetic
import CssColor.Proofs.ByteRounding
import CssColor.Proofs.ByteNotations
import CssColor.Proofs.Totality
import CssColor.Proofs.LineSelection
import CssColor.Proofs.LineTiling
import CssColor.Proofs.CallReading
import CssColor.Proofs.ByteReading
import CssColor.Proofs.ByteFixpoint
import CssColor.Proofs.AlphaSpelling
import CssColor.Proofs.WordColors
import CssColor.Proofs.SettingsResolution
import CssColor.Proofs.HalfRounding
import CssColor.Proofs.OptionLayers
import CssColor.Proofs.JsonScalars
import CssColor.Proofs.JsonDocuments
import CssColor.Proofs.Serialization
