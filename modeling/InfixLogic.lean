import InfixLogic.CommandLine.Disk
import InfixLogic.Main
import InfixLogic.Cache
import InfixLogic.Proposal
import InfixLogic.Grammar
import InfixLogic.TruthTable.Query
import InfixLogic.Proofs.Canonical
import InfixLogic.Proofs.Conversion
import InfixLogic.Proofs.Balance
import InfixLogic.Proofs.Adjacency
import InfixLogic.Proofs.Derivation
import InfixLogic.Proofs.Postorder
import InfixLogic.Proofs.Height
import InfixLogic.Proofs.Reading
import InfixLogic.Proofs.Language
import InfixLogic.Proofs.Bare
import InfixLogic.Proofs.Session
import InfixLogic.Proofs.Group
import InfixLogic.Proofs.Substitution
import InfixLogic.Proofs.Simulation
import InfixLogic.Proofs.Matrix
import InfixLogic.Proofs.TruthTable
import InfixLogic.Proofs.Columns
import InfixLogic.Proofs.Queries
import InfixLogic.Proofs.Failure
import InfixLogic.Proofs.Position
import InfixLogic.Proofs.Recency
import InfixLogic.Proofs.Foreign
import InfixLogic.Proofs.Surface
import InfixLogic.Proofs.Outside
import InfixLogic.Proofs.Document
import InfixLogic.Proofs.Decoding
import InfixLogic.Proofs.Transport
import InfixLogic.Proofs.LookAlike
import InfixLogic.Proofs.Listing
import InfixLogic.Proofs.Effects
import InfixLogic.Proofs.Sources
import InfixLogic.Proofs.Pairing
import InfixLogic.Proofs.Placing
import InfixLogic.Proofs.Arrangement
import InfixLogic.Proofs.Pointwise
import InfixLogic.Proofs.Lexing
import InfixLogic.Proofs.Concatenation
import InfixLogic.Proofs.Extension
import InfixLogic.Proofs.Accounting
import InfixLogic.Proofs.Enumeration
import InfixLogic.Proofs.Payload
import InfixLogic.Proofs.Grouping
import InfixLogic.Proofs.Acceptance
import InfixLogic.Proofs.Assignment
import InfixLogic.Proofs.StackOrder
