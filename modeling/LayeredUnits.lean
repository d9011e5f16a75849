import LayeredUnits.Main
import LayeredUnits.Proofs.Lookup
import LayeredUnits.Proofs.Scene
import LayeredUnits.Proofs.Ledger
import LayeredUnits.Proofs.Nesting
import LayeredUnits.Proofs.Binding
import LayeredUnits.Proofs.StaleMiss
import LayeredUnits.Proofs.ClearRace
import LayeredUnits.Proofs.Candidates
import LayeredUnits.Proofs.LastingMiss
import LayeredUnits.Proofs.QuietHost
import LayeredUnits.Proofs.Chain
import LayeredUnits.Proofs.Transparency
import LayeredUnits.Proofs.Tolerance
import LayeredUnits.Proofs.Waiting
import LayeredUnits.Proofs.Atlas
import LayeredUnits.Proofs.Locations
import LayeredUnits.Proofs.Override
import LayeredUnits.Proofs.StaleLocation
import LayeredUnits.Proofs.Streams
import LayeredUnits.Proofs.Retention
import LayeredUnits.Proofs.Accounts
import LayeredUnits.Proofs.Below
import LayeredUnits.Proofs.Visits
import LayeredUnits.Proofs.Definitions
import LayeredUnits.Proofs.Domains
import LayeredUnits.Proofs.Wholeness
import LayeredUnits.Proofs.Splitting
import LayeredUnits.Proofs.ByteOrder
import LayeredUnits.Proofs.Tree
import LayeredUnits.Proofs.Walking
import LayeredUnits.Proofs.Naming
import LayeredUnits.Proofs.Scanning
import LayeredUnits.Proofs.Agreement
import LayeredUnits.Proofs.Upkeep
import LayeredUnits.Proofs.Events
import LayeredUnits.Proofs.Shares
import LayeredUnits.Proofs.Confinement
import LayeredUnits.Proofs.Probing
import LayeredUnits.Proofs.Failures
import LayeredUnits.Proofs.WrittenStrings
import LayeredUnits.Proofs.Encoding
import LayeredUnits.Proofs.Growth
import LayeredUnits.Proofs.SavedSettings
import LayeredUnits.Proofs.SettingsTasks
import LayeredUnits.Proofs.Learning
import LayeredUnits.Proofs.Reporting
