import Prism.Document.Message
import Prism.Main
import Prism.Proofs.Averages
import Prism.Proofs.Brackets
import Prism.Proofs.Comparison
import Prism.Proofs.Enforcement
import Prism.Proofs.Functions
import Prism.Proofs.Imports.Linking
import Prism.Proofs.Loading
import Prism.Proofs.Opening
import Prism.Proofs.Prose
import Prism.Proofs.Ranking
import Prism.Proofs.Reachability
import Prism.Proofs.References
import Prism.Proofs.Report
import Prism.Proofs.Run.Judgement
import Prism.Proofs.Run.Retrying
import Prism.Proofs.Settings
import Prism.Proofs.Substitutes
import Prism.Proofs.Summary
import Prism.Proofs.Toml
import Prism.Proofs.Words.Capitals
import Prism.Proofs.Words.Division
import Prism.Record.Run
import Prism.Record.Specification
import Prism.Record.View
import Prism.Service
