import ContractHost.Script
import ContractHost.Stack
import ContractHost.Service
import ContractHost.Record.Output
import ContractHost.Record.Config
import ContractHost.Proofs.Delta
import ContractHost.Proofs.Supply
import ContractHost.Proofs.Frame
import ContractHost.Proofs.Solvency
import ContractHost.Proofs.Copies
import ContractHost.Proofs.Requests
import ContractHost.Proofs.Runs
import ContractHost.Proofs.Rollback
import ContractHost.Proofs.Flows
import ContractHost.Proofs.Transactions
import ContractHost.Proofs.Conservation
import ContractHost.Proofs.Bystander
import ContractHost.Proofs.Points
import ContractHost.Proofs.Alignment
import ContractHost.Proofs.Settlement
import ContractHost.Proofs.Overflow
import ContractHost.Proofs.Upgrades
import ContractHost.Proofs.Prices
import ContractHost.Proofs.Refusals
import ContractHost.Proofs.Lockstep
import ContractHost.Proofs.Secrecy
import ContractHost.Proofs.Refunds
import ContractHost.Proofs.Journal
import ContractHost.Proofs.Flattening
import ContractHost.Proofs.Unpayable
import ContractHost.Proofs.Queries
import ContractHost.Proofs.JsonText
import ContractHost.Proofs.RecordText
import ContractHost.Proofs.Imbalance
import ContractHost.Proofs.Writes
import ContractHost.Proofs.Charges
import ContractHost.Proofs.Submissions
import ContractHost.Proofs.LogStream
import ContractHost.Proofs.Merging
import ContractHost.Proofs.Signs
import ContractHost.Proofs.KeyClasses
import ContractHost.Proofs.HexText
import ContractHost.Proofs.Lifecycle
