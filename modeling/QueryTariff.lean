import QueryTariff.Main
import QueryTariff.Proofs.Walk.Occurrence
import QueryTariff.Proofs.Walk.Simulation
import QueryTariff.Proofs.Estimate.PathSums
import QueryTariff.Proofs.Expansion.FullExpansion
import QueryTariff.Proofs.Expansion.Cycles
import QueryTariff.Proofs.Expansion.ReportedCycles
import QueryTariff.Proofs.Expansion.Threshold
import QueryTariff.Proofs.Expansion.Correspondence
import QueryTariff.Proofs.Expansion.Success
import QueryTariff.Proofs.Expansion.Unfolding
import QueryTariff.Proofs.Expansion.Slice
import QueryTariff.Proofs.Expansion.Alike
import QueryTariff.Proofs.Expansion.Shuffled
import QueryTariff.Proofs.Walk.Alike
import QueryTariff.Proofs.Walk.Visits
import QueryTariff.Proofs.Walk.Splicing
import QueryTariff.Proofs.Estimate.Alike
import QueryTariff.Proofs.Estimate.Substitution
import QueryTariff.Proofs.Estimate.Outcome
import QueryTariff.Proofs.Estimate.Monotone
import QueryTariff.Proofs.Estimate.Unbound
import QueryTariff.Proofs.Estimate.MissingFragment
import QueryTariff.Proofs.Estimate.SchemaOrder
import QueryTariff.Proofs.Estimate.MissingField
import QueryTariff.Proofs.Estimate.Failure
import QueryTariff.Proofs.Estimate.EntryPoints
import QueryTariff.Proofs.Estimate.Slice
import QueryTariff.Proofs.Estimate.Additivity
import QueryTariff.Proofs.Estimate.Shuffled
import QueryTariff.Proofs.Estimate.Decoration
import QueryTariff.Proofs.Schema.Fields
import QueryTariff.Proofs.Schema.Declared
import QueryTariff.Proofs.Schema.Extended
import QueryTariff.Proofs.Schema.LoadOrder
import QueryTariff.Proofs.Schema.Content
import QueryTariff.Proofs.Schema.WellFormed
import QueryTariff.Proofs.Estimate.Splicing
import QueryTariff.Proofs.Estimate.EmptyPage
import QueryTariff.Proofs.Schema.Keyed
import QueryTariff.Proofs.Expansion.Termination
import QueryTariff.Proofs.Schema.Annotation
