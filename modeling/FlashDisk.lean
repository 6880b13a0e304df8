import FlashDisk.Main
import FlashDisk.Proofs.AcceptedConfigs
import FlashDisk.Proofs.Batching
import FlashDisk.Proofs.BeforeInit
import FlashDisk.Proofs.BlockByBlock
import FlashDisk.Proofs.BootRegion
import FlashDisk.Proofs.BuildRuns
import FlashDisk.Proofs.CacheRuns
import FlashDisk.Proofs.CallerErrors
import FlashDisk.Proofs.DriverErrors
import FlashDisk.Proofs.Durability
import FlashDisk.Proofs.EraseFirst
import FlashDisk.Proofs.FlashParts
import FlashDisk.Proofs.Interleaving
import FlashDisk.Proofs.Lifecycle
import FlashDisk.Proofs.MessageRows
import FlashDisk.Proofs.NarrowedErase
import FlashDisk.Proofs.NorAdapter
import FlashDisk.Proofs.Pending
import FlashDisk.Proofs.Release
import FlashDisk.Proofs.Retries
import FlashDisk.Proofs.RowShape
import FlashDisk.Proofs.SelfTestFailure
import FlashDisk.Proofs.Spans
import FlashDisk.Proofs.StaleViews
import FlashDisk.Proofs.Surfaces
import FlashDisk.Proofs.Traps
import FlashDisk.RamFlash
import FlashDisk.Session
