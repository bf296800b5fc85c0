import HalBridge.Document.Encode
import HalBridge.Main
import HalBridge.Proofs.FirstOccurrences
import HalBridge.Proofs.KeptNewest
import HalBridge.Proofs.MergeWalk
import HalBridge.Proofs.MergeNewest
import HalBridge.Proofs.MergeGrowth
import HalBridge.Proofs.CollectionWalk
import HalBridge.Proofs.CollectionNewest
import HalBridge.Proofs.NameGrammar
import HalBridge.Proofs.NameRoundTrip
import HalBridge.Proofs.Outcomes
import HalBridge.Proofs.CatalogNames
import HalBridge.Proofs.ReleaseDeclarations
import HalBridge.Proofs.ReleaseFiles
import HalBridge.Proofs.ChainEnds
import HalBridge.Proofs.ResolverInvariant
import HalBridge.Proofs.ResolverLoading
import HalBridge.Proofs.ResolverMeaning
import HalBridge.Proofs.ResolverWellFormed
import HalBridge.Proofs.ResolverAgreement
import HalBridge.Proofs.LoadingOrder
import HalBridge.Proofs.CompleteDocuments
import HalBridge.Proofs.ShapeTotal
import HalBridge.Proofs.WrittenReferences
import HalBridge.Proofs.LoadingFaults
import HalBridge.Proofs.GenerationTotal
import HalBridge.Proofs.ConversionOutcome
import HalBridge.Proofs.GeneratedFiles
import HalBridge.Proofs.ConverterCalls
import HalBridge.Proofs.MemberTypes
import HalBridge.Proofs.UnionDispatch
import HalBridge.Proofs.NameTexts
import HalBridge.Proofs.RunTypes
import HalBridge.Proofs.ConverterNotes
import HalBridge.Proofs.DefinitionFiles
import HalBridge.Proofs.NoteSink
import HalBridge.Proofs.PhaseNotes
import HalBridge.Proofs.ReportedOnce
import HalBridge.Proofs.RepositoryAgreement
import HalBridge.Proofs.TwinLoading
import HalBridge.Proofs.UnrelatedDocuments
import HalBridge.Proofs.AccessPaths
import HalBridge.Proofs.DiscardedFields
import HalBridge.Proofs.TypedefUnfolding
import HalBridge.Proofs.EmittedBlocks
import HalBridge.Proofs.MachineIntegers
import HalBridge.Proofs.NarrowingGuards
import HalBridge.Proofs.ConversionLines
import HalBridge.Proofs.FieldCoverage
import HalBridge.Proofs.PlainTypes
import HalBridge.Proofs.TypedefTransparency
import HalBridge.Proofs.MemberImports
import HalBridge.Proofs.LoadingSteps
import HalBridge.Proofs.RelativeReferences
import HalBridge.Proofs.FailedReleases
import HalBridge.Proofs.ReleaseWindow
import HalBridge.Proofs.OutdatedRequests
import HalBridge.Proofs.RunReleases
import HalBridge.Proofs.RepeatedEmbeddings
import HalBridge.Proofs.BoxedElements
import HalBridge.Proofs.ResolutionClosure
import HalBridge.Proofs.LoadingOnce
import HalBridge.Proofs.DocumentRoundTrip
import HalBridge.Proofs.RegistryHistory
import HalBridge.Proofs.UnreferencedReplacements
import HalBridge.Proofs.ChainWalks
import HalBridge.Proofs.EnumeratorOrder
import HalBridge.Proofs.NoteHistory
