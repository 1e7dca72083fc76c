import PortFabric.Adapter
import PortFabric.Administrative
import PortFabric.Authority
import PortFabric.Capability
import PortFabric.Characteristics
import PortFabric.Checksum
import PortFabric.Codec
import PortFabric.CodecProperties
import PortFabric.Configuration
import PortFabric.Diff
import PortFabric.Digest
import PortFabric.Engine.Acceptance
import PortFabric.Engine.Authority
import PortFabric.Engine.AuthorityProperties
import PortFabric.Engine.Binding
import PortFabric.Engine.BindingInterleaving
import PortFabric.Engine.BindingProperties
import PortFabric.Engine.Commit
import PortFabric.Engine.CommitProperties
import PortFabric.Engine.Durability
import PortFabric.Engine.DurabilityProperties
import PortFabric.Engine.Fixture
import PortFabric.Engine.Gathering
import PortFabric.Engine.GenerationProperties
import PortFabric.Engine.IndexContents
import PortFabric.Engine.IndexProperties
import PortFabric.Engine.Interleaving
import PortFabric.Engine.InterleavingProperties
import PortFabric.Engine.Lifetime
import PortFabric.Engine.Locking
import PortFabric.Engine.LockingProperties
import PortFabric.Engine.Mutation
import PortFabric.Engine.MutationProperties
import PortFabric.Engine.Operation
import PortFabric.Engine.OperationProperties
import PortFabric.Engine.PayloadProperties
import PortFabric.Engine.Plan
import PortFabric.Engine.PlanProperties
import PortFabric.Engine.Progress
import PortFabric.Engine.Proposals
import PortFabric.Engine.Queries
import PortFabric.Engine.RecordInvariants
import PortFabric.Engine.RecordSteps
import PortFabric.Engine.Recovery
import PortFabric.Engine.RecoveryProperties
import PortFabric.Engine.References
import PortFabric.Engine.Replies
import PortFabric.Engine.Request
import PortFabric.Engine.State
import PortFabric.Engine.SyntheticLoop
import PortFabric.Engine.SyntheticLoopProperties
import PortFabric.Engine.Views
import PortFabric.Engine.WellFormedness
import PortFabric.Explanation
import PortFabric.Generation
import PortFabric.Guarantees.AcknowledgedMutations
import PortFabric.Guarantees.AdministrativeAgreement
import PortFabric.Guarantees.AdministrativeTable
import PortFabric.Guarantees.ApplyRace
import PortFabric.Guarantees.AttemptReplay
import PortFabric.Guarantees.AuthoritySafety
import PortFabric.Guarantees.BindingAtomicity
import PortFabric.Guarantees.BindingRace
import PortFabric.Guarantees.BitwiseChecksum
import PortFabric.Guarantees.BrokenCalls
import PortFabric.Guarantees.CapabilityGate
import PortFabric.Guarantees.Claimability
import PortFabric.Guarantees.CleanShutdown
import PortFabric.Guarantees.CommitFencing
import PortFabric.Guarantees.ComposedIdentifiers
import PortFabric.Guarantees.ConfigurationIdentity
import PortFabric.Guarantees.ContainerCodec
import PortFabric.Guarantees.CoordinatedSessions
import PortFabric.Guarantees.CorruptionDetection
import PortFabric.Guarantees.DeadEnds
import PortFabric.Guarantees.DeviceAgreement
import PortFabric.Guarantees.DeviceBinding
import PortFabric.Guarantees.DigestFraming
import PortFabric.Guarantees.DurableOrder
import PortFabric.Guarantees.EpochProgress
import PortFabric.Guarantees.EvidenceBinding
import PortFabric.Guarantees.EvidenceIdentity
import PortFabric.Guarantees.EvidenceSoundness
import PortFabric.Guarantees.FrameCodec
import PortFabric.Guarantees.GenerationOrder
import PortFabric.Guarantees.GenerationReuse
import PortFabric.Guarantees.Grounding
import PortFabric.Guarantees.Handshake
import PortFabric.Guarantees.IncarnationFencing
import PortFabric.Guarantees.IndexConsistency
import PortFabric.Guarantees.InterleavedDefinedness
import PortFabric.Guarantees.LifecycleConformance
import PortFabric.Guarantees.LoadAtomicity
import PortFabric.Guarantees.LockDiscipline
import PortFabric.Guarantees.LostUpdate
import PortFabric.Guarantees.MessageRoundTrip
import PortFabric.Guarantees.MutationAtomicity
import PortFabric.Guarantees.OwnershipCurrency
import PortFabric.Guarantees.ParentDevices
import PortFabric.Guarantees.PeerConfinement
import PortFabric.Guarantees.Prospects
import PortFabric.Guarantees.RecordDiff
import PortFabric.Guarantees.RecordSetDigest
import PortFabric.Guarantees.RecordValidity
import PortFabric.Guarantees.RecoveredAuthority
import PortFabric.Guarantees.RecoveredEvidence
import PortFabric.Guarantees.ReferentialClosure
import PortFabric.Guarantees.RegistryCapacity
import PortFabric.Guarantees.RemoteCalls
import PortFabric.Guarantees.Repairs
import PortFabric.Guarantees.ReplayDecision
import PortFabric.Guarantees.Responses
import PortFabric.Guarantees.Retirement
import PortFabric.Guarantees.SaveAtomicity
import PortFabric.Guarantees.SessionProtocol
import PortFabric.Guarantees.Setbacks
import PortFabric.Guarantees.SnapshotCurrency
import PortFabric.Guarantees.SocketHygiene
import PortFabric.Guarantees.SpeedTexts
import PortFabric.Guarantees.StreamIntegrity
import PortFabric.Guarantees.StreamedDigests
import PortFabric.Guarantees.SyntheticDevices
import PortFabric.Guarantees.SyntheticInventory
import PortFabric.Guarantees.TopologyFencing
import PortFabric.Guarantees.UnresolvedApply
import PortFabric.Guarantees.UntrustedMessages
import PortFabric.Guarantees.Utf8Validation
import PortFabric.Guarantees.WriteOnceProfiles
import PortFabric.Identifier
import PortFabric.IdentifierProperties
import PortFabric.Library.BitStrings
import PortFabric.Library.BlockHashing
import PortFabric.Library.Checks
import PortFabric.Library.CompareAndCommit
import PortFabric.Library.Delimited
import PortFabric.Library.Differences
import PortFabric.Library.DrivenPrograms
import PortFabric.Library.FilePrograms
import PortFabric.Library.Formats
import PortFabric.Library.GroupedIndex
import PortFabric.Library.Growth
import PortFabric.Library.Histories
import PortFabric.Library.IndexedLists
import PortFabric.Library.LockPrograms
import PortFabric.Library.Numerals
import PortFabric.Library.OrderedMap
import PortFabric.Library.Pools
import PortFabric.Library.PrefixCodes
import PortFabric.Library.Refusals
import PortFabric.Library.Runs
import PortFabric.Library.Sealing
import PortFabric.Library.SecondaryIndex
import PortFabric.Library.SecureHash
import PortFabric.Library.ShiftRegister
import PortFabric.Library.Utf8
import PortFabric.Lifecycle
import PortFabric.Limits
import PortFabric.Outcome
import PortFabric.Ownership
import PortFabric.Persistence
import PortFabric.PersistenceProperties
import PortFabric.PersistenceReader
import PortFabric.PersistenceStore
import PortFabric.Profile
import PortFabric.ProfileProperties
import PortFabric.Protocol.Client
import PortFabric.Protocol.ClientProperties
import PortFabric.Protocol.Coordinator
import PortFabric.Protocol.CoordinatorProperties
import PortFabric.Protocol.Dispatch
import PortFabric.Protocol.EngineService
import PortFabric.Protocol.Frame
import PortFabric.Protocol.FrameProperties
import PortFabric.Protocol.Message
import PortFabric.Protocol.MessageIdentity
import PortFabric.Protocol.MessageProperties
import PortFabric.Protocol.MessageReader
import PortFabric.Protocol.Receive
import PortFabric.Protocol.ReceiveProperties
import PortFabric.Protocol.RequestProperties
import PortFabric.Protocol.Session
import PortFabric.Protocol.StreamProperties
import PortFabric.Record
import PortFabric.Rendering
import PortFabric.RenderingProperties
import PortFabric.Server.ThreadHandover
import PortFabric.Server.ThreadInvariants
import PortFabric.Server.ThreadProperties
import PortFabric.Server.Threads
import PortFabric.Sha256
import PortFabric.Sha256Properties
import PortFabric.Survival
import PortFabric.Synthetic
import PortFabric.SyntheticProperties
import PortFabric.Text
import PortFabric.Wire
import PortFabric.WireLayout
import PortFabric.WireProperties
import PortFabric.WireReader
