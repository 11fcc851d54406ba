import Labeling.CommandLine.Arguments
import Labeling.CommandLine.Files
import Labeling.CommandLine.Run
import Labeling.Dict
import Labeling.Error
import Labeling.Grammar.Check
import Labeling.Grammar.Rule
import Labeling.Grammar.Tree
import Labeling.Interface.Annotation
import Labeling.Interface.Basic
import Labeling.Interface.Parse
import Labeling.Interface.Summary
import Labeling.Interface.Task
import Labeling.Json.Decode
import Labeling.Json.Numeral
import Labeling.Json.Reader
import Labeling.Json.Token
import Labeling.Json.Value
import Labeling.Json.Writer
import Labeling.Main
import Labeling.Number.Binary64
import Labeling.Number.Numeral
import Labeling.Number.Shortest
import Labeling.Proofs.CommandLine.Check
import Labeling.Proofs.Dict
import Labeling.Proofs.Except
import Labeling.Proofs.Grammar.Accepted
import Labeling.Proofs.Grammar.Lossless
import Labeling.Proofs.Grammar.Site
import Labeling.Proofs.Grammar.Spelling
import Labeling.Proofs.Grammar.Tree
import Labeling.Proofs.Grammar.Violation
import Labeling.Proofs.Grammar.Walk
import Labeling.Proofs.Interface.BareTask
import Labeling.Proofs.Interface.Consistent
import Labeling.Proofs.Interface.FirstPair
import Labeling.Proofs.Interface.Held
import Labeling.Proofs.Interface.Labels
import Labeling.Proofs.Interface.Leaves
import Labeling.Proofs.Interface.Linked
import Labeling.Proofs.Interface.Repeated
import Labeling.Proofs.Interface.Task
import Labeling.Proofs.Json.Decode
import Labeling.Proofs.Json.Numeral
import Labeling.Proofs.Json.Reader
import Labeling.Proofs.Json.Record
import Labeling.Proofs.Json.WellFormed
import Labeling.Proofs.Number.Binary64
import Labeling.Proofs.Number.Numeral
import Labeling.Proofs.Number.Rounded
import Labeling.Proofs.Result.Batch
import Labeling.Proofs.Result.Built
import Labeling.Proofs.Result.Clean
import Labeling.Proofs.Result.Entry
import Labeling.Proofs.Result.Order
import Labeling.Proofs.Result.OwnType
import Labeling.Proofs.Result.ReadBack
import Labeling.Proofs.Result.Region
import Labeling.Proofs.Sample.Noise
import Labeling.Proofs.Sample.Prediction
import Labeling.Proofs.Sample.Secure
import Labeling.Proofs.Sample.Series
import Labeling.Proofs.Sample.Shape
import Labeling.Proofs.Sample.Task
import Labeling.Proofs.Sample.Value
import Labeling.Proofs.Scan.Assignment
import Labeling.Proofs.Scan.Comment
import Labeling.Proofs.Scan.Entries
import Labeling.Proofs.Scan.Leftmost
import Labeling.Proofs.Scan.Occurrence
import Labeling.Proofs.Scan.Plain
import Labeling.Proofs.Scan.Reading
import Labeling.Proofs.Schema.Conforming
import Labeling.Proofs.Schema.Fragment
import Labeling.Proofs.Schema.Rating
import Labeling.Proofs.Schema.Satisfies
import Labeling.Proofs.Shape.Accepted
import Labeling.Proofs.Shape.Answer
import Labeling.Proofs.Shape.Check
import Labeling.Proofs.Shape.Field
import Labeling.Proofs.Shape.Geometry
import Labeling.Proofs.Shape.Span
import Labeling.Proofs.Tag.History
import Labeling.Proofs.Tag.Map
import Labeling.Proofs.Tag.Registry
import Labeling.Proofs.Text
import Labeling.Proofs.Text.Form
import Labeling.Proofs.Text.Pieces
import Labeling.Proofs.Validation
import Labeling.Proofs.Validation.Agreement
import Labeling.Proofs.Validation.Duplicates
import Labeling.Proofs.Validation.Targets
import Labeling.Proofs.Validation.Unknown
import Labeling.Proofs.Xml.Alike
import Labeling.Proofs.Xml.Element
import Labeling.Proofs.Xml.Mark
import Labeling.Proofs.Xml.NameOrder
import Labeling.Proofs.Xml.Names
import Labeling.Proofs.Xml.StartTag
import Labeling.Region
import Labeling.Report
import Labeling.Result
import Labeling.Sample.Catalog
import Labeling.Sample.Noise
import Labeling.Sample.Prediction
import Labeling.Sample.Series
import Labeling.Sample.Task
import Labeling.Scan
import Labeling.Schema
import Labeling.Shape.Answer
import Labeling.Shape.Check
import Labeling.Shape.Fault
import Labeling.Shape.Geometry
import Labeling.Shape.Span
import Labeling.Tag.Control
import Labeling.Tag.Kind
import Labeling.Tag.Leaf
import Labeling.Tag.Map
import Labeling.Tag.Object
import Labeling.Tag.Registry
import Labeling.Text.Basic
import Labeling.Text.Form
import Labeling.Text.LetterCase
import Labeling.Text.Lowercase
import Labeling.Text.Quoted
import Labeling.Text.Visible
import Labeling.Validation
import Labeling.Xml.Element
import Labeling.Xml.Event
import Labeling.Xml.Name
import Labeling.Xml.Reader
