import TabCompletion.Binding.Scripted
import TabCompletion.Glob.Sets
import TabCompletion.Json.Reading
import TabCompletion.Main
import TabCompletion.ScriptedHost
import TabCompletion.Proofs.Bridge.Failures
import TabCompletion.Proofs.Completer.Edits
import TabCompletion.Proofs.Lookup.Clearance
import TabCompletion.Proofs.Lookup.Order
import TabCompletion.Proofs.Dialogue.Agreement
import TabCompletion.Proofs.Offer.Order
import TabCompletion.Proofs.Lookup.Coherence
import TabCompletion.Proofs.Shell.Execution
import TabCompletion.Proofs.World.Namespaces
import TabCompletion.Proofs.Shell.Scripts
import TabCompletion.Proofs.Shell.Record
import TabCompletion.Proofs.Shell.Session
import TabCompletion.Proofs.Glob.Language
import TabCompletion.Proofs.Glob.Sets
import TabCompletion.Proofs.Dialogue.Consulting
import TabCompletion.Proofs.Lookup.Consulting
import TabCompletion.Proofs.Dialogue.Simulation
import TabCompletion.Proofs.Lookup.Inquiry
import TabCompletion.Proofs.World.Linked
import TabCompletion.Proofs.Binding.Record
import TabCompletion.Proofs.Lookup.Frame
import TabCompletion.Proofs.Lookup.Dereferencing
import TabCompletion.Proofs.Lookup.Succession
import TabCompletion.Proofs.Bridge.Wishes
import TabCompletion.Proofs.Settings.Homes
import TabCompletion.Proofs.Settings.Loading
import TabCompletion.Proofs.World.Retyping
import TabCompletion.Proofs.World.Distinct
import TabCompletion.Proofs.Completer.Accepting
import TabCompletion.Proofs.Json.Reading
import TabCompletion.Proofs.World.Sourcing
import TabCompletion.Proofs.CommandLine.Lookup
import TabCompletion.Proofs.Draft.Splitting
import TabCompletion.Proofs.World.Elements
import TabCompletion.Proofs.World.Steadiness
import TabCompletion.Proofs.Shell.Errands
import TabCompletion.Proofs.Shell.Entering
import TabCompletion.Proofs.Shell.Confinement
import TabCompletion.Proofs.Settings.Checking
