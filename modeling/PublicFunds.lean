import PublicFunds.Ledger.Operation
import PublicFunds.Ledger.Question
import PublicFunds.Main
import PublicFunds.Node.Home
import PublicFunds.Node.Run
import PublicFunds.Proofs.Address.Comparison
import PublicFunds.Proofs.Address.Identity
import PublicFunds.Proofs.Address.Written
import PublicFunds.Proofs.Approval.Order
import PublicFunds.Proofs.Approval.Signing
import PublicFunds.Proofs.Approval.Verdict
import PublicFunds.Proofs.Bytes.Number
import PublicFunds.Proofs.Bytes.Order
import PublicFunds.Proofs.Disbursement.Acceptance
import PublicFunds.Proofs.Disbursement.Keeping
import PublicFunds.Proofs.Disbursement.Sums
import PublicFunds.Proofs.Form.Front
import PublicFunds.Proofs.Form.ReadBack
import PublicFunds.Proofs.Form.Shown
import PublicFunds.Proofs.Json.Reader
import PublicFunds.Proofs.Json.Text
import PublicFunds.Proofs.Key
import PublicFunds.Proofs.Ledger.Acceptance
import PublicFunds.Proofs.Ledger.Admission
import PublicFunds.Proofs.Ledger.Alike
import PublicFunds.Proofs.Ledger.Atomicity
import PublicFunds.Proofs.Ledger.Audit
import PublicFunds.Proofs.Ledger.Binding
import PublicFunds.Proofs.Ledger.Career
import PublicFunds.Proofs.Ledger.Continuity
import PublicFunds.Proofs.Ledger.Coverage
import PublicFunds.Proofs.Ledger.Dialogue
import PublicFunds.Proofs.Ledger.Document
import PublicFunds.Proofs.Ledger.Emptiness
import PublicFunds.Proofs.Ledger.GatedStep
import PublicFunds.Proofs.Ledger.History
import PublicFunds.Proofs.Ledger.Keyed
import PublicFunds.Proofs.Ledger.Legible
import PublicFunds.Proofs.Ledger.Loading
import PublicFunds.Proofs.Ledger.Locality
import PublicFunds.Proofs.Ledger.Numbering
import PublicFunds.Proofs.Ledger.Orderly
import PublicFunds.Proofs.Ledger.Overdraft
import PublicFunds.Proofs.Ledger.Reproduction
import PublicFunds.Proofs.Ledger.Sound
import PublicFunds.Proofs.Ledger.TornLoad
import PublicFunds.Proofs.Ledger.Totals
import PublicFunds.Proofs.Ledger.Validity
import PublicFunds.Proofs.Ledger.Verdict
import PublicFunds.Proofs.Ledger.Writing
import PublicFunds.Proofs.Lifecycle.Change
import PublicFunds.Proofs.Lifecycle.Continuity
import PublicFunds.Proofs.Lifecycle.Path
import PublicFunds.Proofs.Lifecycle.Verdict
import PublicFunds.Proofs.Name
import PublicFunds.Proofs.Node.Start
import PublicFunds.Proofs.Register.Alike
import PublicFunds.Proofs.Register.Arrangement
import PublicFunds.Proofs.Register.Contents
import PublicFunds.Proofs.Register.Dialogue
import PublicFunds.Proofs.Register.Index
import PublicFunds.Proofs.Register.Keyed
import PublicFunds.Proofs.Register.Loading
import PublicFunds.Proofs.Register.Numbering
import PublicFunds.Proofs.Register.Orderly
import PublicFunds.Proofs.Register.Reproduction
import PublicFunds.Proofs.Register.Slot
import PublicFunds.Proofs.Register.Sound
import PublicFunds.Proofs.Register.Writing
import PublicFunds.Proofs.Store.Alike
import PublicFunds.Proofs.Store.Dialogue
import PublicFunds.Proofs.Store.Disk
import PublicFunds.Proofs.Store.Grammar
import PublicFunds.Proofs.Store.Image
import PublicFunds.Proofs.Store.Region
import PublicFunds.Proofs.Store.Reopening
import PublicFunds.Proofs.Store.Scan
