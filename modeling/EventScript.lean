import EventScript.Main
import EventScript.Procedure
import EventScript.Proofs.Ledger
import EventScript.Proofs.Outline
import EventScript.Proofs.Course
import EventScript.Proofs.Charted
import EventScript.Proofs.Consistency
import EventScript.Proofs.Jumps
import EventScript.Proofs.Reaching
import EventScript.Proofs.Freshness
import EventScript.Proofs.Level
import EventScript.Proofs.Demands
import EventScript.Proofs.Judgement
import EventScript.Proofs.Acceptance
import EventScript.Proofs.Entries
import EventScript.Proofs.Meaning
import EventScript.Proofs.Layout
import EventScript.Proofs.Clarity
import EventScript.Proofs.Numbering
import EventScript.Proofs.Preservation
import EventScript.Proofs.Rendering
import EventScript.Proofs.Relocation
import EventScript.Proofs.LabelLines
import EventScript.Proofs.Essence
import EventScript.Proofs.Documents
import EventScript.Proofs.Storage
import EventScript.Proofs.Arguments
import EventScript.Proofs.Programs
import EventScript.Proofs.Saving
import EventScript.Proofs.History
import EventScript.Proofs.Arms
import EventScript.Proofs.Composition
import EventScript.Proofs.Balance
import EventScript.Proofs.LocalActor
import EventScript.Proofs.Blame
import EventScript.Proofs.Instructions
import EventScript.Proofs.ActorOperands
import EventScript.Proofs.ActorCells
import EventScript.Proofs.Coordinates
import EventScript.Proofs.Refusals
import EventScript.Proofs.Literals
import EventScript.Proofs.Ownership
import EventScript.Proofs.References
import EventScript.Proofs.Parts
