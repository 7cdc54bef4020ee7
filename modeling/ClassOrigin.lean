import ClassOrigin.Agent.Lifecycle
import ClassOrigin.ClassFile.Blueprint
import ClassOrigin.Main
import ClassOrigin.Proofs.Weaving
import ClassOrigin.Storage.FileSystem
import ClassOrigin.Proofs.Decoding
import ClassOrigin.Proofs.PoolCodec
import ClassOrigin.Proofs.Lookups
import ClassOrigin.Proofs.PoolGrowth
import ClassOrigin.Proofs.LocationUpdate
import ClassOrigin.Proofs.IdleUpdates
import ClassOrigin.Proofs.WovenBytes
import ClassOrigin.Proofs.Histories
import ClassOrigin.Proofs.Extensions
import ClassOrigin.Proofs.Attaching
import ClassOrigin.Proofs.Loading
import ClassOrigin.Proofs.FileWrites
import ClassOrigin.Proofs.WeavingRuns
import ClassOrigin.Proofs.FilterLayers
import ClassOrigin.Proofs.UpdateOutcomes
import ClassOrigin.Proofs.RepeatedUpdates
import ClassOrigin.Proofs.Surrogates
import ClassOrigin.Proofs.Groups
import ClassOrigin.Proofs.CanonicalSpelling
import ClassOrigin.Proofs.PathComponents
import ClassOrigin.Proofs.PathTexts
import ClassOrigin.Proofs.RecordedPaths
import ClassOrigin.Proofs.UrlPaths
import ClassOrigin.Proofs.NormalTexts
import ClassOrigin.Proofs.HookChains
import ClassOrigin.Proofs.Trimming
import ClassOrigin.Proofs.NestedArchives
import ClassOrigin.Proofs.PercentCodec
import ClassOrigin.Proofs.UrlSegments
import ClassOrigin.Proofs.EncodedUrls
import ClassOrigin.Proofs.SourceSearches
import ClassOrigin.Proofs.ClasspathFiles
import ClassOrigin.Proofs.UnknownKeys
import ClassOrigin.Proofs.EntryKinds
import ClassOrigin.Proofs.SourceRoots
import ClassOrigin.Proofs.Registrations
import ClassOrigin.Proofs.Accessors
import ClassOrigin.Proofs.Blueprints
import ClassOrigin.Proofs.FileTrees
import ClassOrigin.Proofs.ImageLayouts
import ClassOrigin.Proofs.InterningRuns
import ClassOrigin.Proofs.SpelledTexts
