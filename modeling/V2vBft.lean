import V2vBft.Wire.Bytes
import V2vBft.Wire.Records
import V2vBft.Scheduler.Schedule
import V2vBft.Scheduler.WorkQueue
import V2vBft.Scheduler.Batches
import V2vBft.Scheduler.Termination
import V2vBft.Scheduler.Correctness
import V2vBft.Library.Quorum
import V2vBft.Pbft.Request
import V2vBft.Pbft.ForcedView
import V2vBft.Bridge.Proposal
import V2vBft.Bridge.ViewCandidate
import V2vBft.Bridge.PreVerify
import V2vBft.Pbft.ForcedViewFacts
import V2vBft.Bridge.OrderQuorum
import V2vBft.Bridge.CrossLeader
import V2vBft.Wire.Text
import V2vBft.App.WitnessCert
import V2vBft.App.WitnessFacts
import V2vBft.Bridge.CancelProposal
import V2vBft.Bridge.CancelValidity
import V2vBft.Library.GuardedRun
import V2vBft.Bridge.Executor
import V2vBft.App.Gossip
import V2vBft.App.Intersection
import V2vBft.App.History
import V2vBft.App.HaltInvariant
import V2vBft.App.ReleaseEntitlement
import V2vBft.App.ClearGate
import V2vBft.Engine.Collector
import V2vBft.Engine.CollectorFacts
import V2vBft.Engine.Replica
import V2vBft.Engine.ReplicaFacts
import V2vBft.Engine.ExecutorFacts
import V2vBft.Engine.StepFacts
import V2vBft.Engine.ViewPurity
import V2vBft.Engine.Firewall
import V2vBft.Engine.Network
import V2vBft.Engine.Agreement
import V2vBft.Scheduler.Permutation
import V2vBft.Scheduler.Priority
import V2vBft.Scheduler.Isolation
import V2vBft.App.DecisionCodec
import V2vBft.Bridge.OrderSoundness
import V2vBft.App.EpochFrame
import V2vBft.App.Succession
import V2vBft.App.DecisionGossip
import V2vBft.App.GossipFacts
import V2vBft.App.Tombstones
import V2vBft.App.GossipVotes
import V2vBft.App.GossipNetwork
import V2vBft.Engine.ConsensusRelay
import V2vBft.Engine.RadioNetwork
import V2vBft.Engine.VoteAuthenticity
import V2vBft.Bridge.ProposalRoundTrip
import V2vBft.Wire.TextFacts
import V2vBft.Arrival.Announcement
import V2vBft.Arrival.Witness
import V2vBft.Arrival.Cert
import V2vBft.Arrival.WitnessFacts
import V2vBft.Arrival.FirstVariant
import V2vBft.Arrival.AmbulanceGate
import V2vBft.Arrival.AnnouncementFacts
import V2vBft.Arrival.EpochFreshness
import V2vBft.Arrival.Claimant
import V2vBft.Arrival.Distance
import V2vBft.Library.SortedRank
import V2vBft.Arrival.OrderProposal
import V2vBft.Arrival.PartialView
import V2vBft.Engine.ExecutorOrder
import V2vBft.Ledger.Alignment
import V2vBft.Rollback.Handlers
import V2vBft.Rollback.System
import V2vBft.Rollback.CancelAdoption
import V2vBft.Rollback.Redelivery
import V2vBft.Pbft.Binding
import V2vBft.Bridge.ViewValidity
import V2vBft.Bridge.Primary
import V2vBft.Arrival.CrashDetector
import V2vBft.App.ClearCertText
import V2vBft.Rollback.Incidents
import V2vBft.Rollback.ClearTrailer
import V2vBft.Rollback.OrderEvidence
import V2vBft.Rollback.EvidenceAgreement
import V2vBft.Engine.RegistryGrowth
import V2vBft.Engine.ViewChange
import V2vBft.Arrival.QueueOrder
import V2vBft.Bridge.Atomicity
import V2vBft.Bridge.ParserSoundness
import V2vBft.Rollback.WitnessExactness
import V2vBft.Rollback.CancelSizeGate
import V2vBft.Engine.Trigger
import V2vBft.Rollback.Submission
import V2vBft.Rollback.Lifecycle
import V2vBft.Rollback.Progress
import V2vBft.Rollback.EchoCollector
import V2vBft.Rollback.CancelEchoes
import V2vBft.Rollback.ClearEchoes
import V2vBft.Rollback.ClearCandidate
import V2vBft.Engine.RequestFlow
import V2vBft.Engine.RequestCount
import V2vBft.Rollback.Proposer
import V2vBft.Scheduler.Maximality
import V2vBft.Arrival.CertCheck
import V2vBft.Arrival.CertCodec
import V2vBft.Arrival.DirectionSupport
import V2vBft.Arrival.AnnouncementCodec
import V2vBft.Rollback.CertCopies
import V2vBft.Arrival.DistanceCodec
import V2vBft.Arrival.DistanceClaimant
import V2vBft.Wire.Numerals
import V2vBft.Arrival.ArrivalCodec
import V2vBft.Rollback.RadioParsers
import V2vBft.Arrival.DistanceWitness
import V2vBft.Arrival.CertConsistency
import V2vBft.Arrival.QueueRanks
import V2vBft.Rollback.SignedPacket
import V2vBft.Engine.Outbound
import V2vBft.Discovery.TxQueue
import V2vBft.Discovery.Drain
import V2vBft.App.GossipConfirmation
import V2vBft.Rollback.WaitHeartbeat
import V2vBft.Rollback.RoundEpoch
import V2vBft.Rollback.WaitReplay
import V2vBft.Rollback.OrderCompleteness
import V2vBft.Rollback.ClearPropagation
import V2vBft.Crossing.Completion
import V2vBft.Crossing.Junction
import V2vBft.Engine.ConsensusRetry
import V2vBft.Engine.RelayFleet
import V2vBft.Engine.RoundCompletion
import V2vBft.Bridge.InjectedAttacks
