import RefCycle.PendingWork
import RefCycle.Clock.Timeline
import RefCycle.Config.Environment
import RefCycle.Scheduler.Burst
import RefCycle.Heap.Description
import RefCycle.Heap.Reachability
import RefCycle.Heap.History
import RefCycle.Collector.History
import RefCycle.Collector.Interleaving
import RefCycle.Collector.Sharing
import RefCycle.Session.Perform
import RefCycle.Session.Transcript
import RefCycle.Proofs.Heap.Accounting
import RefCycle.Proofs.Collector.Settled
import RefCycle.Proofs.Collector.Floor
import RefCycle.Proofs.Collector.Deferred
import RefCycle.Proofs.Heap.Detection
import RefCycle.Proofs.Heap.GroupRelease
import RefCycle.Collector.Round
import RefCycle.Proofs.Collector.Agreement
import RefCycle.Proofs.Collector.Capacity
import RefCycle.Proofs.Collector.Meeting
import RefCycle.Proofs.Collector.Round
import RefCycle.Collector.Chronicle
import RefCycle.Collector.Census
import RefCycle.Proofs.Collector.Census
import RefCycle.Proofs.Collector.Conservation
import RefCycle.Proofs.Heap.Sustenance
import RefCycle.Proofs.Heap.Cycles
import RefCycle.Proofs.Collector.TrialDeletion
import RefCycle.Proofs.Collector.Disqualification
import RefCycle.Collector.Journal
import RefCycle.Installation.History
import RefCycle.Proofs.Collector.Vacancy
import RefCycle.Proofs.Collector.Quiescence
import RefCycle.Collector.AtOnce
import RefCycle.Proofs.Collector.Confluence
import RefCycle.Proofs.Heap.Dropping
import RefCycle.Proofs.Heap.ReleaseOrder
import RefCycle.Proofs.Collector.Finality
import RefCycle.Installation.Program
import RefCycle.Proofs.Collector.Windows
import RefCycle.Scheduler.Calls
import RefCycle.Proofs.Scheduler.Gating
import RefCycle.Snapshot.Columns
import RefCycle.Session.History
import RefCycle.Proofs.Session.Snapshots
import RefCycle.Proofs.Snapshot.Split
import RefCycle.Text.Grammar
import RefCycle.Config.Grammar
import RefCycle.Proofs.Text.Reading
import RefCycle.Proofs.Config.Environment
import RefCycle.Proofs.Collector.Safepoint
import RefCycle.Proofs.Clock.Exactness
