import Acceptance.Text.Blank
import Acceptance.Text.Lossy
import Acceptance.Text.Quoted
import Acceptance.Fault
import Acceptance.Source.Filtered
import Acceptance.Source.Rewind
import Acceptance.Source.Tally
import Acceptance.Token.Lexer
import Acceptance.Spec.Display
import Acceptance.Spec.Parser
import Acceptance.Evaluation.Recording
import Acceptance.Journal
import Acceptance.Main
import Acceptance.Proofs.Spec.Layout
import Acceptance.Proofs.Spec.Writing
import Acceptance.Proofs.Spec.Concatenation
import Acceptance.Proofs.Source.Simulation
import Acceptance.Proofs.Spec.Simulation
import Acceptance.Proofs.Spec.Failure
import Acceptance.Proofs.Run.Verdict
import Acceptance.Proofs.Spec.Values
import Acceptance.Proofs.Evaluation.Keeps
import Acceptance.Proofs.Run.Plain
import Acceptance.Proofs.World.Sandbox
import Acceptance.Proofs.Run.Cases
import Acceptance.Proofs.CommandLine.Output
import Acceptance.Proofs.Run.Skipping
import Acceptance.Proofs.Token.Classification
import Acceptance.Proofs.Spec.Breaking
import Acceptance.Proofs.CommandLine.Refusals
import Acceptance.Proofs.World.FileTree
import Acceptance.Proofs.World.Temporaries
import Acceptance.Proofs.Run.Requests
import Acceptance.Proofs.Run.Sandboxes
import Acceptance.Proofs.Line.Passage
import Acceptance.Proofs.Spec.Prose
import Acceptance.Proofs.Run.Log
import Acceptance.Proofs.Spec.Insertion
import Acceptance.Proofs.Run.Chains
import Acceptance.Proofs.Evaluation.Recording
import Acceptance.Proofs.Run.Trial
import Acceptance.Proofs.Run.Blame
import Acceptance.Proofs.Text.Quoted
import Acceptance.Proofs.Spec.Display
import Acceptance.Proofs.Source.Judging
import Acceptance.Proofs.Source.History
import Acceptance.Proofs.Token.Tracing
import Acceptance.Proofs.CommandLine.Listing
import Acceptance.Proofs.Spec.Description
import Acceptance.Proofs.Run.Bindings
import Acceptance.Proofs.Run.Environment
import Acceptance.Proofs.CommandLine.Bindings
import Acceptance.Proofs.Source.Spending
import Acceptance.Proofs.Spec.Spending
