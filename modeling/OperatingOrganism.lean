import OperatingOrganism.Adaptive.AgentFeedback
import OperatingOrganism.Adaptive.CHeaders
import OperatingOrganism.Adaptive.GenomeSync
import OperatingOrganism.Adaptive.MimicryCrash
import OperatingOrganism.Adaptive.MimicryMemory
import OperatingOrganism.Adaptive.MutationEngine
import OperatingOrganism.Adaptive.PatternIndexes
import OperatingOrganism.Adaptive.Promotion
import OperatingOrganism.Adaptive.Reevaluation
import OperatingOrganism.Adaptive.SyncFile
import OperatingOrganism.Bot.BotDna
import OperatingOrganism.Bot.Escalation
import OperatingOrganism.Bot.InstinctHistory
import OperatingOrganism.Bot.InstinctLayer
import OperatingOrganism.Bot.InstinctReaction
import OperatingOrganism.Bot.Sha256
import OperatingOrganism.Bot.Sha256Digest
import OperatingOrganism.Bot.TerritoryAlarm
import OperatingOrganism.Bot.TerritoryInvariant
import OperatingOrganism.Bot.TerritoryMap
import OperatingOrganism.Bot.TerritoryTrust
import OperatingOrganism.Bridge.EventLog
import OperatingOrganism.Bridge.PollDirectives
import OperatingOrganism.ColonyServer.CircuitBreaker
import OperatingOrganism.ColonyServer.ColonyStatus
import OperatingOrganism.ColonyServer.Coverage
import OperatingOrganism.ColonyServer.DedupCache
import OperatingOrganism.ColonyServer.Emission
import OperatingOrganism.ColonyServer.FossilPath
import OperatingOrganism.ColonyServer.FossilWalk
import OperatingOrganism.ColonyServer.GossipAdmission
import OperatingOrganism.ColonyServer.HeartbeatStorage
import OperatingOrganism.ColonyServer.Mesh
import OperatingOrganism.ColonyServer.MeshGossip
import OperatingOrganism.ColonyServer.PeerEviction
import OperatingOrganism.ColonyServer.PeerStorage
import OperatingOrganism.ColonyServer.Redelivery
import OperatingOrganism.ColonyServer.RegistryDurability
import OperatingOrganism.ColonyServer.Signature
import OperatingOrganism.ColonyServer.SigningPayload
import OperatingOrganism.ColonyServer.Storage
import OperatingOrganism.ColonyServer.ThreatAggregation
import OperatingOrganism.ColonyServer.ThreatRegistry
import OperatingOrganism.ControlPlanes.Arbitration
import OperatingOrganism.ControlPlanes.ControlTick
import OperatingOrganism.Dream.DreamLoop
import OperatingOrganism.Identity.SelfRecognition
import OperatingOrganism.Immune.AntigenLearning
import OperatingOrganism.Immune.BootWatch
import OperatingOrganism.Immune.FleetAlarm
import OperatingOrganism.Immune.KernelWatch
import OperatingOrganism.Immune.NetWatch
import OperatingOrganism.Immune.Neutralizer
import OperatingOrganism.Immune.RegenAgent
import OperatingOrganism.Immune.Regeneration
import OperatingOrganism.Immune.SwarmMind
import OperatingOrganism.Kernel.Circadian
import OperatingOrganism.Kernel.Posture
import OperatingOrganism.Kernel.Roster
import OperatingOrganism.Library.Buckets
import OperatingOrganism.Library.ByteLayout
import OperatingOrganism.Library.CStringLiteral
import OperatingOrganism.Library.CheckedSum
import OperatingOrganism.Library.Epochs
import OperatingOrganism.Library.Execution
import OperatingOrganism.Library.Fips180
import OperatingOrganism.Library.FirstMatch
import OperatingOrganism.Library.JsonText
import OperatingOrganism.Library.JsonWeight
import OperatingOrganism.Library.KeyedTable
import OperatingOrganism.Library.OrbitWalk
import OperatingOrganism.Library.OrderedMailbox
import OperatingOrganism.Library.PointerList
import OperatingOrganism.Library.PythonText
import OperatingOrganism.Library.RecentSlots
import OperatingOrganism.Library.Selection
import OperatingOrganism.Library.SlidingWindow
import OperatingOrganism.Library.StructFormat
import OperatingOrganism.Library.Sweep
import OperatingOrganism.Library.Utf8
import OperatingOrganism.Library.WordMachine
import OperatingOrganism.Library.WrappingArithmetic
import OperatingOrganism.Library.X86
import OperatingOrganism.Library.XorShift
import OperatingOrganism.Memory.FreeCell
import OperatingOrganism.Memory.HedgedMemory
import OperatingOrganism.Memory.HedgedRead
import OperatingOrganism.Memory.HedgedTable
import OperatingOrganism.Memory.LowestFree
import OperatingOrganism.Memory.MemoryBounds
import OperatingOrganism.Memory.Purge
import OperatingOrganism.Memory.ReleaseUndoes
import OperatingOrganism.Memory.ReplicaRanges
import OperatingOrganism.Network.Respiration
import OperatingOrganism.Regen.Hotpatch
import OperatingOrganism.Senses.Keystroke
import OperatingOrganism.UnitedBus.BloodBrainBarrier
import OperatingOrganism.UnitedBus.CapacityChange
import OperatingOrganism.UnitedBus.Collection
import OperatingOrganism.UnitedBus.Delivery
import OperatingOrganism.UnitedBus.Draining
import OperatingOrganism.UnitedBus.Refusals
import OperatingOrganism.UnitedBus.RingBounds
import OperatingOrganism.UnitedBus.Window
import OperatingOrganism.Vital.AncestralMemory
import OperatingOrganism.Vital.CircadianRhythm
import OperatingOrganism.Vital.Consciousness
import OperatingOrganism.Vital.ConsciousnessHistory
import OperatingOrganism.Vital.ConsciousnessRuns
import OperatingOrganism.Vital.EnergyBudget
import OperatingOrganism.Vital.EpigeneticCounters
import OperatingOrganism.Vital.Epigenetics
import OperatingOrganism.Vital.Famine
import OperatingOrganism.Vital.Guardian
import OperatingOrganism.Vital.GuardianEscalation
import OperatingOrganism.Vital.HebbianLearning
import OperatingOrganism.Vital.HomeostasisRegulator
import OperatingOrganism.Vital.JitterStatistics
import OperatingOrganism.Vital.JournalBounds
import OperatingOrganism.Vital.LearnedWords
import OperatingOrganism.Vital.MetabolicForth
import OperatingOrganism.Vital.Metabolism
import OperatingOrganism.Vital.Nociception
import OperatingOrganism.Vital.PainArithmetic
import OperatingOrganism.Vital.Persistence
import OperatingOrganism.Vital.QuantumVault
import OperatingOrganism.Vital.RefractoryPeriod
import OperatingOrganism.Vital.SteelHeart
import OperatingOrganism.Vital.SynapseImport
import OperatingOrganism.Vital.SynapsePropagation
import OperatingOrganism.Vital.TemporalEngine
import OperatingOrganism.Vital.TransitionReason
import OperatingOrganism.Vital.UefiEntry
import OperatingOrganism.Voice.UartBridge
import OperatingOrganism.Voice.VoiceStateLine
import OperatingOrganism.Voice.VoiceStateWriter
