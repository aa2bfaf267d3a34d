import BuildManifest.Main
import BuildManifest.Proofs.Compilation.Coverage
import BuildManifest.Proofs.Compilation.Filling
import BuildManifest.Proofs.Compilation.Insertion
import BuildManifest.Proofs.Compilation.Visits
import BuildManifest.Proofs.Directive.Division
import BuildManifest.Proofs.Directive.Entries
import BuildManifest.Proofs.Directive.RoundTrip
import BuildManifest.Proofs.Expansion.Cycles
import BuildManifest.Proofs.Expansion.Passes
import BuildManifest.Proofs.Expansion.Precedence
import BuildManifest.Proofs.Expansion.Settling
import BuildManifest.Proofs.Loading.Bindings
import BuildManifest.Proofs.Loading.Continuation
import BuildManifest.Proofs.Loading.Rearrangement
import BuildManifest.Proofs.Loading.Repetition
import BuildManifest.Proofs.Loading.Rejection
import BuildManifest.Proofs.Loading.Seeding
import BuildManifest.Proofs.Pipeline.Accounting
import BuildManifest.Proofs.Pipeline.EmptyEntries
import BuildManifest.Proofs.Pipeline.Exclusions
import BuildManifest.Proofs.Pipeline.Outlasting
import BuildManifest.Proofs.Pipeline.Schedule
import BuildManifest.Proofs.Session.Agreement
import BuildManifest.Proofs.Compilation.Patterns
import BuildManifest.Proofs.Compilation.Rules
import BuildManifest.Proofs.Compilation.Union
import BuildManifest.Proofs.Path.Below
import BuildManifest.Proofs.Path.Normal
import BuildManifest.Proofs.Pipeline.Location
import BuildManifest.Proofs.Script.Composition
