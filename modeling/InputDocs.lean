import InputDocs.Main
import InputDocs.Proofs.Field.Duplicates
import InputDocs.Proofs.Field.LineEnds
import InputDocs.Proofs.Field.Wrapper
import InputDocs.Proofs.Manifest.Accounts
import InputDocs.Proofs.Manifest.Merge
import InputDocs.Proofs.Manifest.References
import InputDocs.Proofs.Render.Anchor
import InputDocs.Proofs.Render.Lossless
import InputDocs.Proofs.Render.PipeRow
import InputDocs.Proofs.Render.SeeLink
import InputDocs.Proofs.Render.Update
import InputDocs.Proofs.Splice.Sequence
import InputDocs.Proofs.TypeExpr.DepthLimit
import InputDocs.Proofs.TypeExpr.ErrorPlace
import InputDocs.Proofs.TypeExpr.SignatureRoundTrip
import InputDocs.Proofs.TypeExpr.ValidPrefix
import InputDocs.Session
import InputDocs.Text.Utf8
import InputDocs.Proofs.Doc.Normal
import InputDocs.Proofs.Command.Directory
import InputDocs.Proofs.Command.Run
import InputDocs.Proofs.Doc.Marks
import InputDocs.Proofs.Field.OptionalChain
import InputDocs.Proofs.Splice.Division
import InputDocs.Proofs.Token.Unreadable
import InputDocs.Proofs.Manifest.Signature
import InputDocs.Proofs.Field.WellFormed
import InputDocs.Proofs.Manifest.Pass
import InputDocs.Proofs.TypeExpr.Descent
