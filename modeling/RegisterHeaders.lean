import RegisterHeaders.CommandLine.Outcome
import RegisterHeaders.FileTree
import RegisterHeaders.Main
import RegisterHeaders.Proofs.Derivation.Fault
import RegisterHeaders.Proofs.Derivation.WritingOut
import RegisterHeaders.Proofs.FileTree
import RegisterHeaders.Proofs.Group.LetterRuns
import RegisterHeaders.Proofs.Header.DefiningField
import RegisterHeaders.Proofs.Header.Definition
import RegisterHeaders.Proofs.Header.Selection
import RegisterHeaders.Proofs.Job.OnDisk
import RegisterHeaders.Proofs.Svd.Flattening
import RegisterHeaders.Proofs.Svd.SiblingReference
import RegisterHeaders.Proofs.Svd.WrittenAttribute
import RegisterHeaders.Proofs.FileTree.Interruption
import RegisterHeaders.Proofs.Derivation.Arrangement
import RegisterHeaders.Proofs.Derivation.Reordering
import RegisterHeaders.Proofs.Job.Effect
import RegisterHeaders.Proofs.Job.Keeping
import RegisterHeaders.Proofs.Job.Repetition
import RegisterHeaders.Proofs.Svd.UnrenamedReference
import RegisterHeaders.Proofs.Derivation.Cycle
import RegisterHeaders.Proofs.Svd.ExactPosition
import RegisterHeaders.Proofs.Header.NonemptyGroup
import RegisterHeaders.Proofs.Job.EarlyFailure
import RegisterHeaders.Proofs.Derivation.FirstList
import RegisterHeaders.Proofs.Header.WidthReport
import RegisterHeaders.Proofs.Text.Wrapping
import RegisterHeaders.Proofs.Header.AliasName
import RegisterHeaders.Proofs.Header.MemberName
import RegisterHeaders.Proofs.Header.ValidName
import RegisterHeaders.Proofs.Header.FirstKnown
import RegisterHeaders.Proofs.Header.Reemission
import RegisterHeaders.Proofs.Header.Threshold
import RegisterHeaders.Proofs.Header.GroupConstants
import RegisterHeaders.Proofs.Svd.BlockReference
import RegisterHeaders.Proofs.Header.RegisterMap
import RegisterHeaders.Proofs.Derivation.PathReading
import RegisterHeaders.Proofs.Svd.BlockPosition
import RegisterHeaders.Proofs.Header.AppendedPeripheral
import RegisterHeaders.Proofs.Header.BannerComment
import RegisterHeaders.Proofs.Svd.ElementName
