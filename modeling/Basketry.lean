import Basketry.Main
import Basketry.CallData
import Basketry.Swap.Uniswap
import Basketry.Swap.Slipstream
import Basketry.Morpho.Claim
import Basketry.Morpho.Wrap
import Basketry.Units
import Basketry.Constants
import Basketry.Abi.Decoding
import Basketry.Chain.Operation
import Basketry.Expectation
import Basketry.Network.Control
import Basketry.Check
import Basketry.Proofs.SettingsViews
import Basketry.Proofs.SettingsAgree
import Basketry.Proofs.Edits
import Basketry.Proofs.Footprints
import Basketry.Proofs.Moves
import Basketry.Proofs.Blocks
import Basketry.Proofs.Runs
import Basketry.Proofs.ViewsAgree
import Basketry.Proofs.Transactions
import Basketry.Proofs.Authority
import Basketry.Proofs.Batches
import Basketry.Proofs.Residue
import Basketry.Proofs.Placement
import Basketry.Proofs.Effects
import Basketry.Proofs.Results
import Basketry.Proofs.Initialized
import Basketry.Proofs.OrderlyHistories
import Basketry.Proofs.SettingsLog
import Basketry.Proofs.ClaimLog
import Basketry.Proofs.ModuleSettings
import Basketry.Proofs.Ledgers
import Basketry.Proofs.AdapterSpelling
import Basketry.Proofs.Respelling
import Basketry.Proofs.Isolation
import Basketry.Proofs.Rewards
import Basketry.Proofs.BigEndian
import Basketry.Proofs.Captures
import Basketry.Proofs.PackedPaths
import Basketry.Proofs.EncodedArguments
import Basketry.Proofs.PathData
import Basketry.Proofs.SwapCalls
import Basketry.Proofs.UniswapTrades
import Basketry.Proofs.SlipstreamTrades
import Basketry.Proofs.PathRoundTrips
import Basketry.Proofs.DecodedArguments
import Basketry.Proofs.ClaimData
import Basketry.Proofs.ClaimEffects
import Basketry.Proofs.ComponentListing
import Basketry.Proofs.PositionGains
import Basketry.Proofs.BatchAcceptance
import Basketry.Proofs.Undoing
import Basketry.Proofs.LifeCycles
import Basketry.Proofs.ComponentCounts
import Basketry.Proofs.Integrations
import Basketry.Proofs.DirectCalls
import Basketry.Proofs.Transfers
import Basketry.Proofs.CallFaults
import Basketry.Proofs.Splicing
import Basketry.Proofs.LibraryLinking
import Basketry.Proofs.CreationCode
import Basketry.Proofs.Retries
import Basketry.Proofs.Scaling
import Basketry.Proofs.PreciseRounding
import Basketry.Proofs.PackedReaders
import Basketry.Proofs.NumericArguments
import Basketry.Proofs.Occurrences
import Basketry.Proofs.ArtifactLookup
