import MetesBounds.Angle
import MetesBounds.Bearing
import MetesBounds.Binary64
import MetesBounds.Call
import MetesBounds.Command
import MetesBounds.Command.Arguments
import MetesBounds.Command.InTree
import MetesBounds.Constants
import MetesBounds.Curve
import MetesBounds.Curve.OnSphere
import MetesBounds.Decimal.Brief
import MetesBounds.Decimal.Fixed
import MetesBounds.Decimal.Reader
import MetesBounds.Decimal.Shortest
import MetesBounds.Digest.Sha256
import MetesBounds.Error
import MetesBounds.Evaluation
import MetesBounds.Evaluation.Run
import MetesBounds.FileTree
import MetesBounds.Fingerprint
import MetesBounds.Instruments
import MetesBounds.Instruments.Known
import MetesBounds.Json
import MetesBounds.Log
import MetesBounds.Log.Threshold
import MetesBounds.Main
import MetesBounds.Marker
import MetesBounds.Measure
import MetesBounds.Measure.Dimension
import MetesBounds.Measure.Expression
import MetesBounds.Measure.Known
import MetesBounds.Measure.NamedUnit
import MetesBounds.Measure.Powers
import MetesBounds.Measure.Product
import MetesBounds.Measure.Quantity
import MetesBounds.Measure.Scalar
import MetesBounds.Measure.Spelling
import MetesBounds.Measure.Token
import MetesBounds.Moment
import MetesBounds.Number
import MetesBounds.Number.Arithmetic
import MetesBounds.Number.Complex
import MetesBounds.Number.Double
import MetesBounds.Path
import MetesBounds.Point
import MetesBounds.Point.Checked
import MetesBounds.Procedure
import MetesBounds.Proofs.Calculation
import MetesBounds.Proofs.Instruments
import MetesBounds.Proofs.Traverse.Substitution
import MetesBounds.Reckoning
import MetesBounds.Registry
import MetesBounds.Registry.Standard
import MetesBounds.Settings
import MetesBounds.Sheet
import MetesBounds.Sheet.Column
import MetesBounds.Sphere
import MetesBounds.Table
import MetesBounds.Text.Blank
import MetesBounds.Text.CharName
import MetesBounds.Text.CharName.Alias
import MetesBounds.Text.CharName.Ancient
import MetesBounds.Text.CharName.Block
import MetesBounds.Text.CharName.Carved
import MetesBounds.Text.CharName.Component
import MetesBounds.Text.CharName.Eastern
import MetesBounds.Text.CharName.Form
import MetesBounds.Text.CharName.Indic
import MetesBounds.Text.CharName.Picture
import MetesBounds.Text.CharName.Sign
import MetesBounds.Text.CharName.Southern
import MetesBounds.Text.CharName.Syllabic
import MetesBounds.Text.CharName.Symbol
import MetesBounds.Text.CharName.Western
import MetesBounds.Text.CodeRanges
import MetesBounds.Text.Digit
import MetesBounds.Text.Encoding
import MetesBounds.Text.Encoding.Bytewise
import MetesBounds.Text.Encoding.Chinese
import MetesBounds.Text.Encoding.Escaped
import MetesBounds.Text.Encoding.Grid
import MetesBounds.Text.Encoding.Grid.Big5
import MetesBounds.Text.Encoding.Grid.Gb2312
import MetesBounds.Text.Encoding.Grid.Gbk
import MetesBounds.Text.Encoding.Grid.Hkscs
import MetesBounds.Text.Encoding.Grid.Jis0208
import MetesBounds.Text.Encoding.Grid.Jis0212
import MetesBounds.Text.Encoding.Grid.Jis0213
import MetesBounds.Text.Encoding.Grid.Ks1001
import MetesBounds.Text.Encoding.Grid.Page932
import MetesBounds.Text.Encoding.HostName
import MetesBounds.Text.Encoding.HostName.Direction
import MetesBounds.Text.Encoding.HostName.Folding
import MetesBounds.Text.Encoding.HostName.Mark
import MetesBounds.Text.Encoding.Iso2022
import MetesBounds.Text.Encoding.Japanese
import MetesBounds.Text.Encoding.Korean
import MetesBounds.Text.Encoding.Multibyte
import MetesBounds.Text.Encoding.Name
import MetesBounds.Text.Encoding.Page
import MetesBounds.Text.Encoding.Punycode
import MetesBounds.Text.Encoding.Units
import MetesBounds.Text.Encoding.Utf7
import MetesBounds.Text.Encoding.Utf8
import MetesBounds.Text.Letter
import MetesBounds.Text.Lines
import MetesBounds.Text.Pieces
import MetesBounds.Text.Printable
import MetesBounds.Text.Quoted
import MetesBounds.Text.Surrogate
import MetesBounds.Text.Word
import MetesBounds.Trail
import MetesBounds.Trail.Export
import MetesBounds.Traverse
import MetesBounds.Value
import MetesBounds.Wkt
import MetesBounds.Proofs.Registry.Standard
import MetesBounds.Proofs.Traverse.Coherent
import MetesBounds.Proofs.Evaluation.Run
import MetesBounds.Proofs.Calculation.Measures
import MetesBounds.Proofs.Evaluation.Failure
import MetesBounds.Proofs.Evaluation.Operations
import MetesBounds.Proofs.Evaluation.Result
import MetesBounds.Proofs.Evaluation.Acting
import MetesBounds.Proofs.Calculation.Overlong
import MetesBounds.Proofs.Evaluation.Symbols
import MetesBounds.Proofs.Evaluation.Footing
import MetesBounds.Proofs.Evaluation.Deed
import MetesBounds.Proofs.Evaluation.Alike
import MetesBounds.Proofs.Evaluation.Emptying
import MetesBounds.Proofs.Evaluation.Audit
import MetesBounds.Proofs.Evaluation.Transparency
import MetesBounds.Proofs.Trail.Nesting
import MetesBounds.Proofs.Text.Joined
import MetesBounds.Proofs.Sheet.Columns
import MetesBounds.Proofs.Sheet.Rows
import MetesBounds.Proofs.Calculation.Rounding
import MetesBounds.Proofs.Command.Evaluating
import MetesBounds.Proofs.Sheet.Refusals
import MetesBounds.Proofs.Command.Report
import MetesBounds.Proofs.Sheet.Lines
import MetesBounds.Proofs.Sheet.Types
import MetesBounds.Proofs.Calculation.Akin
import MetesBounds.Proofs.Traverse.Fieldwise
import MetesBounds.Proofs.Traverse.Twins
import MetesBounds.Proofs.Registry.Twins
import MetesBounds.Proofs.Evaluation.Abreast
import MetesBounds.Proofs.Evaluation.Memos
import MetesBounds.Proofs.Evaluation.Instalments
import MetesBounds.Proofs.Traverse.Resolution
import MetesBounds.Proofs.Evaluation.Spelling
import MetesBounds.Proofs.Command.Composition
import MetesBounds.Proofs.Sheet.FirstFault
import MetesBounds.Proofs.Sheet.DataLines
import MetesBounds.Proofs.Angle.Texts
import MetesBounds.Proofs.Traverse.Once
import MetesBounds.Proofs.Text.Rejoined
import MetesBounds.Proofs.Sheet.Gifts
import MetesBounds.Proofs.Sheet.Arrangement
import MetesBounds.Proofs.Calculation.Worth
import MetesBounds.Proofs.Calculation.Nearest
import MetesBounds.Proofs.Calculation.Operations
import MetesBounds.Proofs.Calculation.Turn
import MetesBounds.Proofs.Decimal.Largest
import MetesBounds.Proofs.Angle.Limits
import MetesBounds.Proofs.Calculation.Seconds
import MetesBounds.Proofs.Angle.Written
import MetesBounds.Proofs.Angle.RoundTrip
import MetesBounds.Proofs.Evaluation.Frame
import MetesBounds.Proofs.Registry.Registration
import MetesBounds.Proofs.Wkt.Row
import MetesBounds.Proofs.Wkt.Corners
import MetesBounds.Proofs.Curve.Radius
import MetesBounds.Proofs.Curve.Mirror
import MetesBounds.Proofs.Evaluation.Backwards
import MetesBounds.Proofs.Calculation.RoundedTurn
import MetesBounds.Proofs.Angle.Exchange
import MetesBounds.Proofs.Json.Reading
import MetesBounds.Proofs.Json.Canonical
import MetesBounds.Proofs.Evaluation.Accepted
import MetesBounds.Proofs.Sheet.ColumnNames
