import TokenLaunch.Main
import TokenLaunch.Record
import TokenLaunch.Proofs.Validation
import TokenLaunch.Proofs.Source.Contract
import TokenLaunch.Proofs.ContractName
import TokenLaunch.Proofs.Source.Reading
import TokenLaunch.Proofs.Functions
import TokenLaunch.Proofs.Source.Emitted
import TokenLaunch.Proofs.Source.Numbers
import TokenLaunch.Proofs.Source.Decimals
import TokenLaunch.Proofs.Abi.Arguments
import TokenLaunch.Proofs.Abi.Word
import TokenLaunch.Proofs.Abi.Layout
import TokenLaunch.Proofs.Abi.Decoding
import TokenLaunch.Proofs.Abi.Spelling
import TokenLaunch.Proofs.Abi.RoundTrip
import TokenLaunch.Proofs.Abi.Lossless
import TokenLaunch.Proofs.ConstructorCall
import TokenLaunch.Proofs.Journal
import TokenLaunch.Proofs.Polling
import TokenLaunch.Proofs.Creation
import TokenLaunch.Proofs.Verification
import TokenLaunch.Proofs.Launch
import TokenLaunch.Proofs.Order
import TokenLaunch.Proofs.Agreement
import TokenLaunch.Proofs.Status
import TokenLaunch.Proofs.Outcome
import TokenLaunch.Proofs.Nesting
import TokenLaunch.Proofs.Source.Name
import TokenLaunch.Proofs.Custody
import TokenLaunch.Proofs.Failure
import TokenLaunch.Proofs.Ledger.Hook
import TokenLaunch.Proofs.Ledger.Bypass
import TokenLaunch.Proofs.Source.Identity
import TokenLaunch.Proofs.Inheritance
import TokenLaunch.Proofs.Explorers
import TokenLaunch.Proofs.Series
import TokenLaunch.Proofs.Utf8
import TokenLaunch.Proofs.Address
import TokenLaunch.Proofs.Integer
import TokenLaunch.Proofs.Choice
import TokenLaunch.Proofs.Grammar
import TokenLaunch.Proofs.Source.Identifiers
import TokenLaunch.Proofs.Source.Spelling
import TokenLaunch.Proofs.Source.Heads
import TokenLaunch.Proofs.Source.Sections
import TokenLaunch.Proofs.Source.Scope
import TokenLaunch.Proofs.Closure
import TokenLaunch.Proofs.Privileges
import TokenLaunch.Proofs.Intent
import TokenLaunch.Proofs.Evidence
import TokenLaunch.Proofs.Json.Printing
import TokenLaunch.Proofs.Json.Form
import TokenLaunch.Proofs.DraftText
import TokenLaunch.Proofs.Edits
import TokenLaunch.Proofs.Amount
import TokenLaunch.Proofs.Fields
import TokenLaunch.Proofs.Blame
import TokenLaunch.Proofs.Influence
import TokenLaunch.Proofs.Respelling
import TokenLaunch.Proofs.Source.Assembly
import TokenLaunch.Proofs.Source.Brackets
import TokenLaunch.Proofs.Source.Layout
import TokenLaunch.Proofs.Source.LaidOut
import TokenLaunch.Proofs.FileTree
import TokenLaunch.Proofs.Directories
import TokenLaunch.Proofs.SettingsText
import TokenLaunch.Proofs.Settings
import TokenLaunch.Proofs.Attempts
import TokenLaunch.Proofs.Compilation
import TokenLaunch.Proofs.Source.Recovery
import TokenLaunch.Proofs.Record
