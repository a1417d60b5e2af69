import FlowRouter.Native.Grammar
import FlowRouter.Native.Bounds
import FlowRouter.Native.Snapshot
import FlowRouter.Control.History
import FlowRouter.Native.Dataplane
import FlowRouter.Native.Visibility
import FlowRouter.Native.Assignment
import FlowRouter.Control.Signals
import FlowRouter.Native.Joining
import FlowRouter.Control.Network
import FlowRouter.Control.Normalize
import FlowRouter.Native.Accounting
import FlowRouter.Control.Lifecycle
import FlowRouter.Library.Trace
import FlowRouter.Control.Legality
import FlowRouter.Library.Attempt
import FlowRouter.Library.Registry
import FlowRouter.Native.Heap
import FlowRouter.Native.Memory
import FlowRouter.Native.Holding
import FlowRouter.Native.Building
import FlowRouter.Native.Freeing
import FlowRouter.Native.Generations
import FlowRouter.Library.Checksum
import FlowRouter.Native.Rewrite
import FlowRouter.Native.Rewritten
import FlowRouter.Native.Validity
import FlowRouter.Native.Process
import FlowRouter.Library.Frame
import FlowRouter.Native.Outline
import FlowRouter.Native.Standing
import FlowRouter.Native.Stages
import FlowRouter.Native.Endings
import FlowRouter.Native.Recovery
import FlowRouter.Control.Forwarding
import FlowRouter.Library.Simulation
import FlowRouter.Native.Following
import FlowRouter.Native.Refinement
import FlowRouter.Control.Store
import FlowRouter.Native.Ledger
import FlowRouter.Native.Halting
import FlowRouter.Library.Slices
import FlowRouter.Control.Concord
import FlowRouter.Control.Isolation
