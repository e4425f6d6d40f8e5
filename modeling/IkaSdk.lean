import IkaSdk.Core.Client.WorkerDelivery
import IkaSdk.Core.Common.FutureSignatures
import IkaSdk.Core.Common.OneRun
import IkaSdk.Core.Common.ParametersCache
import IkaSdk.Core.Common.RequestLimits
import IkaSdk.Core.Common.SentSessions
import IkaSdk.Core.Common.ShareCommits
import IkaSdk.Core.Common.StaleRetries
import IkaSdk.Core.Common.WaitingRequests
import IkaSdk.Core.Grpc.ChannelLifecycle
import IkaSdk.Core.Grpc.CommitteeCanonical
import IkaSdk.Core.Grpc.CommitteePinSafety
import IkaSdk.Core.Grpc.CreatedShareAcceptance
import IkaSdk.Core.Grpc.EpochCloseBound
import IkaSdk.Core.Grpc.FailoverRuns
import IkaSdk.Core.Grpc.FutureSignCompletion
import IkaSdk.Core.Grpc.NetworkKeyOutputSafety
import IkaSdk.Core.Grpc.OwnershipPaths
import IkaSdk.Core.Grpc.SignatureSchemes
import IkaSdk.Core.Grpc.UnaryAnswers
import IkaSdk.Crates.OneFormat
import IkaSdk.Programs.LoneMember
import IkaSdk.Programs.MultisigRequests
import IkaSdk.Programs.VotingSafety
import IkaSdk.Solana.AskedDWallets
import IkaSdk.Solana.AttestationAccounts
import IkaSdk.Solana.CanonicalAttestations
import IkaSdk.Solana.CrossCheckedAccounts
import IkaSdk.Solana.DomainSeparation
import IkaSdk.Solana.EncryptionKeyEntries
import IkaSdk.Solana.ForeignAccounts
import IkaSdk.Solana.RevokedVouchers
import IkaSdk.Solana.SignatureWaits
import IkaSdk.Solana.SignedAcceptances
import IkaSdk.Solana.VoucherSigners
import IkaSdk.Solana.WaitingShares
import IkaSdk.Solana.WrittenNumbers
