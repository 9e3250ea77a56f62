import PolicyBridge.Main
import PolicyBridge.Sample.ClassSpec
import PolicyBridge.Proofs.Dispatch.Drawing
import PolicyBridge.Proofs.Query.History
import PolicyBridge.Proofs.Query.Holding
import PolicyBridge.Proofs.Query.Lifecycle
import PolicyBridge.Proofs.Following
import PolicyBridge.Proofs.Marshal.Viewing
import PolicyBridge.Proofs.Dispatch.Calling
import PolicyBridge.Proofs.Dispatch.Viewing
import PolicyBridge.Proofs.Query.Reference
import PolicyBridge.Proofs.Query.Refinement
import PolicyBridge.Proofs.Dispatch.Isolation
import PolicyBridge.Proofs.Dispatch.Remembering
import PolicyBridge.Proofs.Dispatch.Resolution
import PolicyBridge.Proofs.Query.Forgetting
import PolicyBridge.Proofs.Session.Forgetting
import PolicyBridge.Proofs.Session.Serving
import PolicyBridge.Proofs.Marshal.Crossing
import PolicyBridge.Proofs.Marshal.RoundTrip
import PolicyBridge.Proofs.Dictionary
import PolicyBridge.Proofs.Query.Borrowing
import PolicyBridge.Proofs.Query.Ruling
import PolicyBridge.Proofs.Session.Steps
import PolicyBridge.Proofs.Session.Authorizing
import PolicyBridge.Proofs.Json.Literals
import PolicyBridge.Proofs.Json.Scanning
import PolicyBridge.Proofs.Json.Parsing
import PolicyBridge.Proofs.Json.Reading
import PolicyBridge.Proofs.Json.Canonical
import PolicyBridge.Proofs.Wire.Terms
import PolicyBridge.Proofs.Wire.Events
import PolicyBridge.Proofs.Marshal.Citing
import PolicyBridge.Proofs.Session.Keeping
import PolicyBridge.Proofs.Session.Lending
import PolicyBridge.Proofs.Session.Constants
import PolicyBridge.Proofs.Registry.Classes
import PolicyBridge.Proofs.Registry.Counting
import PolicyBridge.Proofs.Registry.Builders
import PolicyBridge.Proofs.Registry.Recasting
import PolicyBridge.Proofs.Dispatch.Receiving
import PolicyBridge.Proofs.Dispatch.Outdating
import PolicyBridge.Proofs.Dispatch.Containing
import PolicyBridge.Proofs.Query.Complaining
import PolicyBridge.Proofs.Query.Recovering
import PolicyBridge.Proofs.Json.Printing
import PolicyBridge.Proofs.Native.Sending
import PolicyBridge.Proofs.Native.Tracing
import PolicyBridge.Proofs.Native.Turns
import PolicyBridge.Proofs.Native.Settling
import PolicyBridge.Proofs.Marshal.Enlisting
import PolicyBridge.Proofs.Session.Binding
import PolicyBridge.Proofs.Native.Watching
import PolicyBridge.Proofs.Native.Owing
import PolicyBridge.Proofs.Query.Owing
import PolicyBridge.Proofs.Session.Ownership
import PolicyBridge.Proofs.Session.Starting
import PolicyBridge.Proofs.Registry.Ranking
import PolicyBridge.Proofs.Dispatch.Ranking
import PolicyBridge.Proofs.Registry.Pinning
import PolicyBridge.Proofs.Marshal.Returning
import PolicyBridge.Proofs.Marshal.Plain
import PolicyBridge.Proofs.Dispatch.Walking
import PolicyBridge.Proofs.Dispatch.Iterating
import PolicyBridge.Proofs.Query.Tallying
import PolicyBridge.Proofs.Session.Moving
import PolicyBridge.Proofs.Session.Tallying
import PolicyBridge.Proofs.Marshal.Accepting
import PolicyBridge.Proofs.Value.Converting
import PolicyBridge.Proofs.Value.Floats
import PolicyBridge.Proofs.Dispatch.Comparing
import PolicyBridge.Proofs.Registry.Referring
import PolicyBridge.Proofs.Dispatch.Unifying
import PolicyBridge.Proofs.Value.Rounding
import PolicyBridge.Proofs.Dispatch.Measuring
import PolicyBridge.Proofs.Dispatch.Matching
import PolicyBridge.Proofs.Query.Gathering
import PolicyBridge.Proofs.Cli.Reporting
import PolicyBridge.Proofs.Cli.Quoting
import PolicyBridge.Proofs.Recency
import PolicyBridge.Proofs.Session.Loading
import PolicyBridge.Proofs.Cli.Displaying
import PolicyBridge.Proofs.Cli.Integers
