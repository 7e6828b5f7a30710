import ClassDocs.Main
import ClassDocs.Proofs.CommentSegmentation
import ClassDocs.Proofs.KeyedMaps
import ClassDocs.Proofs.TagFields
import ClassDocs.Proofs.ParentChain
import ClassDocs.Proofs.Flattening
import ClassDocs.Proofs.MethodOwnership
import ClassDocs.Proofs.ParentWalk
import ClassDocs.Proofs.InterfaceClosure
import ClassDocs.Proofs.InterfaceMethods
import ClassDocs.Proofs.CommentComposition
import ClassDocs.Proofs.Inheritance
import ClassDocs.Proofs.RecordInvariant
import ClassDocs.Proofs.RegistryCalls
import ClassDocs.Proofs.TagGrammar
import ClassDocs.Proofs.Lockstep
import ClassDocs.Proofs.TagIndependence
import ClassDocs.Proofs.TagAliases
import ClassDocs.Proofs.ViewCells
import ClassDocs.Proofs.ViewSessions
import ClassDocs.Proofs.SharedMethods
import ClassDocs.Proofs.ReportAgreement
import ClassDocs.Proofs.CatalogNames
import ClassDocs.Proofs.FileNames
import ClassDocs.Proofs.DirectoryTrees
import ClassDocs.Proofs.VisibleFiles
import ClassDocs.Proofs.CatalogListings
import ClassDocs.Proofs.NamespaceBrowsing
import ClassDocs.Proofs.CatalogKeys
import ClassDocs.Proofs.ConfigChecks
import ClassDocs.Proofs.RecordJson
import ClassDocs.Proofs.InterfaceSearch
import ClassDocs.Proofs.IncludePaths
import ClassDocs.Proofs.ConfiguredTags
import ClassDocs.Proofs.NamespaceFilters
import ClassDocs.Proofs.TextWords
import ClassDocs.Proofs.ValueReading
import ClassDocs.Proofs.ValuePrinting
import ClassDocs.Proofs.SilentComments
import ClassDocs.Proofs.Indentation
import ClassDocs.Proofs.Reindentation
import ClassDocs.Proofs.LineArithmetic
import ClassDocs.Proofs.CatalogQueries
import ClassDocs.Proofs.ParameterOrder
