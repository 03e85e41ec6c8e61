import RuntimeMacro.Foundations.Runs
import RuntimeMacro.Foundations.ByteBuffer
import RuntimeMacro.Source.Ascii
import RuntimeMacro.Source.AuthCore
import RuntimeMacro.Source.AuthRuns
import RuntimeMacro.Guarantees.SessionSoundness
import RuntimeMacro.Guarantees.RateLimit
import RuntimeMacro.Source.DynamicStore
import RuntimeMacro.Source.Frame
import RuntimeMacro.Source.SlotStore
import RuntimeMacro.Source.World
import RuntimeMacro.Source.Protocol
import RuntimeMacro.Source.ProtocolCases
import RuntimeMacro.Source.DynamicCases
import RuntimeMacro.Source.ProtocolDynamicCases
import RuntimeMacro.Source.WorldRuns
import RuntimeMacro.Guarantees.Noninterference
import RuntimeMacro.Source.WorldAuth
import RuntimeMacro.Guarantees.Loading
import RuntimeMacro.Foundations.Transfers
import RuntimeMacro.Source.FrameUploads
import RuntimeMacro.Guarantees.SetCommit
import RuntimeMacro.Source.FrameBoundaries
import RuntimeMacro.Guarantees.AuthBoundaries
import RuntimeMacro.Source.DynamicUploads
import RuntimeMacro.Guarantees.DynamicCommit
import RuntimeMacro.Source.LossyCalls
import RuntimeMacro.Source.ManagedFrames
import RuntimeMacro.Guarantees.ErrorAtomicity
import RuntimeMacro.Foundations.Generations
import RuntimeMacro.Guarantees.CredentialDrift
import RuntimeMacro.Source.UsbHid
import RuntimeMacro.Guarantees.UsbEpochs
import RuntimeMacro.Guarantees.LoginCompleteness
import RuntimeMacro.Source.TextRuns
import RuntimeMacro.Guarantees.TtlExactness
import RuntimeMacro.Guarantees.ConsumeOnce
import RuntimeMacro.Source.ExecutorRuns
import RuntimeMacro.Guarantees.TypingTrace
import RuntimeMacro.Source.SlotSettings
import RuntimeMacro.Source.SlotBoots
import RuntimeMacro.Guarantees.SlotSurvival
import RuntimeMacro.Source.UsbPermit
import RuntimeMacro.Guarantees.ResponseBuffer
import RuntimeMacro.Guarantees.DynamicSeparation
import RuntimeMacro.Guarantees.NoReadback
import RuntimeMacro.Guarantees.UploadDrops
import RuntimeMacro.Guarantees.ContextMixing
import RuntimeMacro.Guarantees.ClearedSlots
import RuntimeMacro.Guarantees.SessionWindow
import RuntimeMacro.Guarantees.SlotIsolation
import RuntimeMacro.Foundations.WriteThrough
import RuntimeMacro.Guarantees.UpdateOrder
import RuntimeMacro.Guarantees.CredentialCodec
import RuntimeMacro.Guarantees.StrandedRequests
import RuntimeMacro.Foundations.Dialogues
import RuntimeMacro.Source.Client
import RuntimeMacro.Source.Answers
import RuntimeMacro.Source.ClientCalls
import RuntimeMacro.Source.Device
import RuntimeMacro.Foundations.Links
import RuntimeMacro.Source.Station
import RuntimeMacro.Source.SetChunks
import RuntimeMacro.Source.Pages
import RuntimeMacro.Guarantees.RoundTrip
import RuntimeMacro.Foundations.Transactions
import RuntimeMacro.Guarantees.ChunkTransactions
import RuntimeMacro.Guarantees.ClientCommits
import RuntimeMacro.Source.AuthReports
import RuntimeMacro.Guarantees.PasswordChunks
import RuntimeMacro.Guarantees.PasswordOverLoss
import RuntimeMacro.Guarantees.AuthInvariant
import RuntimeMacro.Guarantees.StoreInvariant
import RuntimeMacro.Source.ContextShapes
import RuntimeMacro.Guarantees.ContextInvariant
import RuntimeMacro.Foundations.Scans
import RuntimeMacro.Source.TtlWork
import RuntimeMacro.Guarantees.TtlArming
import RuntimeMacro.Guarantees.RefusedReports
import RuntimeMacro.Guarantees.AgreedCalls
import RuntimeMacro.Guarantees.WireAgreement
import RuntimeMacro.Guarantees.WellFormedSlots
import RuntimeMacro.Guarantees.CanonicalAnswers
import RuntimeMacro.Guarantees.PagingRobustness
import RuntimeMacro.Guarantees.UploadGrammar
import RuntimeMacro.Source.TimeoutWork
import RuntimeMacro.Guarantees.InactivityTimeout
import RuntimeMacro.Guarantees.SlotKeys
import RuntimeMacro.Guarantees.TerminalText
import RuntimeMacro.Source.HidTransport
import RuntimeMacro.Guarantees.ExchangeDeadline
import RuntimeMacro.Source.UsbBus
import RuntimeMacro.Source.UsbService
import RuntimeMacro.Guarantees.UsbLink
import RuntimeMacro.Foundations.Implementations
import RuntimeMacro.Guarantees.ArrayOfTexts
import RuntimeMacro.Source.Keyboard
import RuntimeMacro.Source.KeyboardRuns
import RuntimeMacro.Guarantees.TypedTexts
import RuntimeMacro.Guarantees.StaticOrigins
import RuntimeMacro.Foundations.Asking
import RuntimeMacro.Guarantees.VaultOfTexts
import RuntimeMacro.Guarantees.ToolEffects
import RuntimeMacro.Foundations.KeyReaders
import RuntimeMacro.Guarantees.OutlivesPower
import RuntimeMacro.Guarantees.PasswordOutlivesPower
