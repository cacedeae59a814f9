import CloudBalance.Files.Disk
import CloudBalance.Main
import CloudBalance.Proofs.Balancer.Made
import CloudBalance.Proofs.Balancer.Names
import CloudBalance.Proofs.Balancer.Placement
import CloudBalance.Proofs.Command.Create
import CloudBalance.Proofs.Command.Destroy
import CloudBalance.Proofs.Command.History
import CloudBalance.Proofs.Command.Session
import CloudBalance.Proofs.Command.Unreadable
import CloudBalance.Proofs.Command.Bracket
import CloudBalance.Proofs.Ensures
import CloudBalance.Proofs.Files.Disk
import CloudBalance.Proofs.Files.Machine
import CloudBalance.Proofs.Files.Path
import CloudBalance.Proofs.Json.Decode
import CloudBalance.Proofs.Json.Printer
import CloudBalance.Proofs.Ledger.Entries
import CloudBalance.Proofs.Ledger.Project
import CloudBalance.Proofs.Ledger.Store
import CloudBalance.Proofs.Ledger.Text
import CloudBalance.Proofs.Lookup
import CloudBalance.Proofs.Net.Address
import CloudBalance.Proofs.Node.Group
import CloudBalance.Proofs.Runs
import CloudBalance.Proofs.Text.Digits
import CloudBalance.Proofs.Text.Order
import CloudBalance.Proofs.Time.Instant
import CloudBalance.Proofs.World.Calls
import CloudBalance.Proofs.Cloudflare.Destroy
import CloudBalance.Proofs.World.Machine
import CloudBalance.Proofs.Sakura.Destroy
import CloudBalance.Proofs.Command.Forget
import CloudBalance.Proofs.Command.Provider
import CloudBalance.Proofs.Cloudflare.Answering
import CloudBalance.Proofs.Json.Compact
import CloudBalance.Proofs.Cloudflare.Create
import CloudBalance.Proofs.Cloudflare.Store
import CloudBalance.Proofs.Cloudflare.Undo
import CloudBalance.Proofs.Sakura.Answering
import CloudBalance.Proofs.Sakura.Record
import CloudBalance.Proofs.Text.Output
import CloudBalance.Proofs.Balancer.Guess
import CloudBalance.Proofs.Sakura.Output
import CloudBalance.Proofs.Sakura.Create
import CloudBalance.Proofs.Sakura.Store
import CloudBalance.Proofs.Sakura.Undo
import CloudBalance.Proofs.Balancer.Undo
import CloudBalance.Proofs.Cloudflare.Retry
import CloudBalance.Proofs.Cloudflare.Sharing
import CloudBalance.Proofs.Ledger.Contention
import CloudBalance.Proofs.Ledger.Takeover
import CloudBalance.Proofs.Ledger.Saving
import CloudBalance.Proofs.Ledger.Reload
import CloudBalance.Proofs.Ledger.Placed
import CloudBalance.Proofs.Ledger.Former
import CloudBalance.Proofs.Ledger.Guard
import CloudBalance.Proofs.Ledger.Reached
import CloudBalance.Proofs.Settings.Document
import CloudBalance.Proofs.Balancer.Addresses
import CloudBalance.Proofs.Command.Nodes
import CloudBalance.Proofs.Sakura.Directory
import CloudBalance.Proofs.Records
import CloudBalance.Proofs.Cloudflare.Origins
import CloudBalance.Proofs.Sakura.Reading
import CloudBalance.Proofs.Sakura.Leaving
import CloudBalance.Proofs.Balancer.Attempts
import CloudBalance.Proofs.Sakura.Listing
import CloudBalance.Proofs.Sakura.Address
import CloudBalance.Proofs.Ledger.Decision
import CloudBalance.Proofs.Ledger.Keys
import CloudBalance.Proofs.Ledger.Strayed
import CloudBalance.Proofs.Settings.Unusable
import CloudBalance.Proofs.Ledger.Crash
import CloudBalance.Proofs.Json.Members
import CloudBalance.Proofs.Cloudflare.Pools
import CloudBalance.Proofs.Cloudflare.Reachable
import CloudBalance.Proofs.Cloudflare.Refusals
import CloudBalance.Proofs.Ledger.Newer
