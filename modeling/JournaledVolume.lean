import JournaledVolume.Allocator.Archive
import JournaledVolume.Allocator.Storage
import JournaledVolume.Journal.Archive
import JournaledVolume.Journal.Inspection
import JournaledVolume.Journal.Listing
import JournaledVolume.MemoryDevice
import JournaledVolume.Mount
import JournaledVolume.Proofs.PowerLoss
import JournaledVolume.Proofs.Repair
import JournaledVolume.Proofs.Handover
import JournaledVolume.Proofs.Agreement
import JournaledVolume.Proofs.PackedAllocator
import JournaledVolume.Proofs.Keeping
import JournaledVolume.Proofs.Relocation
import JournaledVolume.Proofs.BlockFormats
import JournaledVolume.Proofs.Settling
import JournaledVolume.Proofs.FirstFit
import JournaledVolume.Proofs.InPlaceReplay
import JournaledVolume.Proofs.Tampering
import JournaledVolume.Proofs.Flattening
import JournaledVolume.Proofs.BitPlaces
import JournaledVolume.Proofs.Traversals
import JournaledVolume.Proofs.FailedReads
import JournaledVolume.Proofs.VolumeLayout
import JournaledVolume.Proofs.Confinement
import JournaledVolume.Proofs.SealedBlocks
import JournaledVolume.Proofs.ExactSearches
import JournaledVolume.Proofs.TypedReads
