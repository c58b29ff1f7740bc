import FieldFilter.Builder
import FieldFilter.Settings.EnvFile
import FieldFilter.Workspace
import FieldFilter.Proofs.AppendOnly
import FieldFilter.Proofs.CallDepth
import FieldFilter.Proofs.DefaultDialect
import FieldFilter.Proofs.DoubleNegation
import FieldFilter.Proofs.EqualText
import FieldFilter.Proofs.FieldPath
import FieldFilter.Proofs.LiteralCast
import FieldFilter.Proofs.LiteralEnd
import FieldFilter.Proofs.MissingValue
import FieldFilter.Proofs.NodeEquivalence
import FieldFilter.Proofs.Portability
import FieldFilter.Proofs.QuotedIdentifier
import FieldFilter.Proofs.ReferenceText
import FieldFilter.Proofs.RepeatedNegation
import FieldFilter.Proofs.ThreeValued
import FieldFilter.Proofs.UniqueText
