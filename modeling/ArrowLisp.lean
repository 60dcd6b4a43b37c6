import ArrowLisp.Main
import ArrowLisp.Proofs.DatumGrammar
import ArrowLisp.Proofs.ErrorTrails
import ArrowLisp.Proofs.InputLines
import ArrowLisp.Proofs.JoinedFiles
import ArrowLisp.Proofs.LexicalScope
import ArrowLisp.Proofs.NameSafety
import ArrowLisp.Proofs.PendingLines
import ArrowLisp.Proofs.PlainLayout
import ArrowLisp.Proofs.RepeatedParsing
import ArrowLisp.Proofs.RoundTrip
import ArrowLisp.Proofs.ScriptedConsoles
import ArrowLisp.Proofs.SubstitutionAgreement
import ArrowLisp.Proofs.TypedNumbers
import ArrowLisp.Proofs.WordCompletion
import ArrowLisp.Session.Completion
import ArrowLisp.Text.Lossy
