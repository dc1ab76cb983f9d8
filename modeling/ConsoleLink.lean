import ConsoleLink.Main
import ConsoleLink.Proofs.Barrier.Lifetime
import ConsoleLink.Proofs.Pad.History
import ConsoleLink.Proofs.Memory.Ranges
import ConsoleLink.Proofs.Watch.Resolution
import ConsoleLink.Proofs.Disk.Outcomes
import ConsoleLink.Proofs.Remote.Frames
import ConsoleLink.Proofs.Remote.Exchange
import ConsoleLink.Proofs.Remote.HeldButtons
import ConsoleLink.Proofs.Memory.FlatRam
import ConsoleLink.Proofs.Watch.Reads
import ConsoleLink.Proofs.Remote.Refusals
import ConsoleLink.Proofs.Jobs.Desk
import ConsoleLink.Proofs.Jobs.Delivery
import ConsoleLink.Proofs.Pad.Comparison
import ConsoleLink.Proofs.Remote.Hosting
import ConsoleLink.Proofs.Remote.Lockstep
import ConsoleLink.Proofs.NameMap.Order
import ConsoleLink.Proofs.Text.ByteOrder
import ConsoleLink.Proofs.Watch.History
import ConsoleLink.Proofs.MessagePack.Forms
import ConsoleLink.Proofs.Machine.Snapshots
import ConsoleLink.Proofs.Disk.Files
import ConsoleLink.Proofs.Machine.SaveStates
import ConsoleLink.Proofs.Remote.Lookup
import ConsoleLink.Proofs.Remote.Schedules
import ConsoleLink.Proofs.Remote.Recency
import ConsoleLink.Proofs.Json.Sorted
import ConsoleLink.Proofs.Text.Listing
import ConsoleLink.Proofs.Remote.Errands
import ConsoleLink.Proofs.Remote.Registration
import ConsoleLink.Proofs.Memory.Probes
import ConsoleLink.Proofs.Trace
import ConsoleLink.Proofs.Machine.Orders
import ConsoleLink.Proofs.Jobs.Keeping
import ConsoleLink.Proofs.Remote.Stories
import ConsoleLink.Proofs.Remote.Accounts
import ConsoleLink.Proofs.Remote.Pausing
import ConsoleLink.Proofs.Remote.Shutdown
import ConsoleLink.Proofs.Text.Streams
import ConsoleLink.Proofs.Json.Compact
import ConsoleLink.Proofs.Json.Skipping
import ConsoleLink.Proofs.Json.Decoding
import ConsoleLink.Proofs.Rpc.Calls
import ConsoleLink.Proofs.Rpc.Answering
import ConsoleLink.Proofs.Pad.Merging
import ConsoleLink.Proofs.Barrier.Collection
import ConsoleLink.Proofs.Text.Pieces
import ConsoleLink.Proofs.Rpc.Undecodable
import ConsoleLink.Proofs.Machine.StateFiles
import ConsoleLink.Proofs.Machine.Life
import ConsoleLink.Proofs.Machine.Publishing
import ConsoleLink.Proofs.Remote.Mailbox
import ConsoleLink.Proofs.Watch.Spelling
import ConsoleLink.Proofs.Watch.Chains
import ConsoleLink.Proofs.Remote.Startup
import ConsoleLink.Proofs.Machine.FrameNumbers
import ConsoleLink.Proofs.Config.Arguments
import ConsoleLink.Proofs.Json.Printing
import ConsoleLink.Proofs.Rpc.ReadBack
