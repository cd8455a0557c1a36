import DecisionGraph.Main
import DecisionGraph.Proofs.Access
import DecisionGraph.Proofs.Addressed
import DecisionGraph.Proofs.Agreement
import DecisionGraph.Proofs.AlikeOptions
import DecisionGraph.Proofs.Companions
import DecisionGraph.Proofs.ConnectionReport
import DecisionGraph.Proofs.CycleTurns
import DecisionGraph.Proofs.DataReport
import DecisionGraph.Proofs.Directory
import DecisionGraph.Proofs.Entries
import DecisionGraph.Proofs.FinalSigma
import DecisionGraph.Proofs.GoalLanguage
import DecisionGraph.Proofs.HeldOutcome
import DecisionGraph.Proofs.InRange
import DecisionGraph.Proofs.Inspected
import DecisionGraph.Proofs.Inspection
import DecisionGraph.Proofs.LabelWords
import DecisionGraph.Proofs.Lookup
import DecisionGraph.Proofs.MovedFindings
import DecisionGraph.Proofs.NoWorse
import DecisionGraph.Proofs.NumberReport
import DecisionGraph.Proofs.Pruned
import DecisionGraph.Proofs.Reference
import DecisionGraph.Proofs.Relisted
import DecisionGraph.Proofs.Remade
import DecisionGraph.Proofs.RepairedFile
import DecisionGraph.Proofs.Reread
import DecisionGraph.Proofs.Routes
import DecisionGraph.Proofs.Severity
import DecisionGraph.Proofs.Survival
import DecisionGraph.Proofs.Sweep
import DecisionGraph.Proofs.Table
import DecisionGraph.Proofs.Tally
import DecisionGraph.Proofs.Tracing
import DecisionGraph.Proofs.TrustedClaims
import DecisionGraph.Proofs.Unclaimed
import DecisionGraph.Proofs.UnfiniteAdvice
import DecisionGraph.Proofs.Verdict
import DecisionGraph.Proofs.Visible
import DecisionGraph.Proofs.WideReport
import DecisionGraph.Sample
import DecisionGraph.Session
