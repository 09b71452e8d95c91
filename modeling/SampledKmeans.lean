import SampledKmeans.Duration
import SampledKmeans.Text.Quoted
import SampledKmeans.Random.SplitMix
import SampledKmeans.Store.Scripted
import SampledKmeans.Store.Timed
import SampledKmeans.Clustering
import SampledKmeans.Table.Name
import SampledKmeans.Table.Sink
import SampledKmeans.Json.Settings
import SampledKmeans.Table.JsonLines
import SampledKmeans.Service
import SampledKmeans.Proofs.Refinement.Contract
import SampledKmeans.Proofs.Refinement.LastIteration
import SampledKmeans.Proofs.Refinement.Prefix
import SampledKmeans.Proofs.Refinement.Checkpoint
import SampledKmeans.Proofs.Refinement.Fixpoint
import SampledKmeans.Proofs.Refinement.Descent
import SampledKmeans.Proofs.Clustering.Contract
import SampledKmeans.Proofs.Store.Serves
import SampledKmeans.Proofs.Refinement.Endings
import SampledKmeans.Proofs.Clustering.Endings
import SampledKmeans.Proofs.Store.Fault
import SampledKmeans.Proofs.Refinement.Faults
import SampledKmeans.Proofs.Clustering.Faults
import SampledKmeans.Proofs.Clustering.Validation
import SampledKmeans.Proofs.Clustering.InMemory
import SampledKmeans.Proofs.Clustering.Assignment
import SampledKmeans.Proofs.Nearest.Coincidence
import SampledKmeans.Proofs.Nearest.First
import SampledKmeans.Proofs.Seeding.Rounds
import SampledKmeans.Proofs.Seeding.Soundness
import SampledKmeans.Proofs.Number.Vanishing
import SampledKmeans.Proofs.Vector.Gaps
import SampledKmeans.Proofs.Seeding.InMemory
import SampledKmeans.Proofs.Procedure.Advances
import SampledKmeans.Proofs.Seeding.Randomness
import SampledKmeans.Proofs.Clustering.Randomness
import SampledKmeans.Proofs.Fit
import SampledKmeans.Proofs.Clustering.Score
import SampledKmeans.Proofs.Refinement.Rearrangement
import SampledKmeans.Proofs.Table.Name
import SampledKmeans.Proofs.Table.JsonLines
import SampledKmeans.Proofs.Service
import SampledKmeans.Proofs.Expansion.OnePass
import SampledKmeans.Proofs.Expansion.Fit
import SampledKmeans.Proofs.Vector.Mean
import SampledKmeans.Proofs.Refinement.Positions
import SampledKmeans.Proofs.Seeding.Choice
import SampledKmeans.Proofs.Refinement.Change
import SampledKmeans.Proofs.Vector.Dense
import SampledKmeans.Proofs.Clustering.WorkingSet
import SampledKmeans.Proofs.Vector.Symmetry
import SampledKmeans.Proofs.Vector.Coordinatewise
import SampledKmeans.Proofs.Vector.Pairs
import SampledKmeans.Proofs.Vector.RoundTrip
import SampledKmeans.Proofs.Vector.Canonical
import SampledKmeans.Proofs.Store.Pull
import SampledKmeans.Proofs.Clustering.TimeLimit
import SampledKmeans.Proofs.Table.Lines
