import Kelpie.Lib.Rows
import Kelpie.Lib.Runs
import Kelpie.Store.Calls
import Kelpie.Bindings.Uniqueness
import Kelpie.Bindings.Seats
import Kelpie.Bindings.Archive
import Kelpie.Ledger.Deadlines
import Kelpie.Ledger.Stranded
import Kelpie.Ledger.Away
import Kelpie.Ledger.Polling
import Kelpie.Schedules.Tells
import Kelpie.Schedules.Prepare
import Kelpie.Schedules.Occupancy
import Kelpie.Herdr.Delivery
import Kelpie.Clears.Unproven
import Kelpie.Slice.Envelope
import Kelpie.Slice.Starts
import Kelpie.Renews.Cycles
import Kelpie.Waiters.Inbox
import Kelpie.Renews.Resumes
import Kelpie.Renews.Told
import Kelpie.Renews.Sent
import Kelpie.Renews.Reserved
import Kelpie.Slice.Rendering
import Kelpie.Slice.Names
import Kelpie.Serving.Once
import Kelpie.Record.Deliveries
import Kelpie.Recovery.Handoffs
import Kelpie.Slice.Targets
import Kelpie.Cli.Words
