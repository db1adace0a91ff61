import LogTree.Capture.Builder
import LogTree.Capture.DepthLimiter
import LogTree.Capture.LimitsJson
import LogTree.Capture.Property
import LogTree.Capture.SelfLog
import LogTree.Value.Standard
import LogTree.Proofs.Capture.Claim
import LogTree.Proofs.Capture.Layer
import LogTree.Proofs.Value.Reach
import LogTree.Proofs.Capture.Level
import LogTree.Proofs.Capture.Outline
import LogTree.Proofs.Capture.Nesting
import LogTree.Proofs.Capture.Deepening
import LogTree.Proofs.Capture.Explosion
import LogTree.Proofs.Capture.Place
import LogTree.Proofs.Capture.TextLength
import LogTree.Proofs.Capture.Presence
import LogTree.Proofs.Capture.Absence
import LogTree.Proofs.Tree.Settled
import LogTree.Proofs.Capture.Mapping
import LogTree.Proofs.Tree.Lookup
import LogTree.Proofs.Capture.Members
import LogTree.Proofs.Capture.Step
import LogTree.Proofs.Capture.WellFormed
import LogTree.Proofs.Capture.DefaultMode
import LogTree.Proofs.Capture.PlainData
import LogTree.Proofs.Capture.Inquiry
import LogTree.Proofs.Capture.Extension
import LogTree.Proofs.Capture.Patience
import LogTree.Proofs.Capture.Run
import LogTree.Proofs.Capture.Flattening
import LogTree.Proofs.Capture.Notices
import LogTree.Proofs.Tree.Unambiguous
import LogTree.Proofs.Json.Reading
import LogTree.Proofs.Scalar.NumericFormats
import LogTree.Proofs.Tree.Sameness
import LogTree.Proofs.Capture.LimitsJson
import LogTree.Proofs.Capture.Builder
import LogTree.Proofs.Number.Numerals
import LogTree.Proofs.Scalar.IntegerDigits
import LogTree.Proofs.Scalar.Grouping
import LogTree.Proofs.Scalar.WholeNumbers
import LogTree.Proofs.Tree.Rendering
import LogTree.Proofs.Scalar.Understanding
import LogTree.Proofs.Tree.Formats
import LogTree.Proofs.Tree.IntegerDocuments
import LogTree.Proofs.Capture.FlattenedText
import LogTree.Proofs.Capture.CollectionLimit
import LogTree.Proofs.Capture.Verbatim
import LogTree.Proofs.Tree.Dictionary
import LogTree.Proofs.Capture.ByteSequences
import LogTree.Proofs.Scalar.Constants
