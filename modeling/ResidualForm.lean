import ResidualForm.Main
import ResidualForm.Proofs.Exchange.Journal
import ResidualForm.Proofs.Exchange.Marks
import ResidualForm.Proofs.Exchange.Refinement
import ResidualForm.Proofs.Exchange.Currency
import ResidualForm.Proofs.Exchange.Display
import ResidualForm.Proofs.Exchange.Outstanding
import ResidualForm.Proofs.Text.Cluster
import ResidualForm.Proofs.Draft
import ResidualForm.Proofs.Form
import ResidualForm.Proofs.Session.Agreement
import ResidualForm.Proofs.Service
import ResidualForm.Proofs.Sample
import ResidualForm.Proofs.Session.Reconstruction
import ResidualForm.Proofs.Text.Boundary
import ResidualForm.Proofs.TruthVector.RoundTrip
import ResidualForm.Proofs.Text.Count
import ResidualForm.Proofs.Draft.Run
import ResidualForm.Proofs.Draft.Size
import ResidualForm.Proofs.Draft.Insertion
import ResidualForm.Proofs.Field.Run
import ResidualForm.Proofs.Form.Run
import ResidualForm.Proofs.Form.Readiness
import ResidualForm.Proofs.Form.Changes
import ResidualForm.Proofs.Form.Indicators
import ResidualForm.Proofs.Exchange.ArrivalOrder
import ResidualForm.Proofs.Exchange.Counters
import ResidualForm.Proofs.Form.Answerable
import ResidualForm.Proofs.Field.Length
import ResidualForm.Proofs.Field.GapBuffer
import ResidualForm.Proofs.Field.Typing
import ResidualForm.Proofs.Form.Typing
import ResidualForm.Proofs.Exchange.Outgoing
import ResidualForm.Proofs.Exchange.Standing
import ResidualForm.Proofs.Session.Events
import ResidualForm.Proofs.Session.DataFlow
import ResidualForm.Proofs.Session.Exercise
import ResidualForm.Proofs.Session.Typing
import ResidualForm.Proofs.Terminal.Frames
import ResidualForm.Proofs.TruthVector.Rows
import ResidualForm.Proofs.TruthVector.Restriction
import ResidualForm.Proofs.Terminal.Loop
import ResidualForm.Proofs.Draft.Deletion
import ResidualForm.Proofs.Service.Argument
import ResidualForm.Proofs.Screen.Line
import ResidualForm.Proofs.Screen.Cursor
import ResidualForm.Proofs.Screen.Overflow
