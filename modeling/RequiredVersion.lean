import RequiredVersion.Main
import RequiredVersion.Proofs.Report
import RequiredVersion.Proofs.Resolution
import RequiredVersion.Proofs.ScanOrder
import RequiredVersion.Proofs.Declarations
import RequiredVersion.Proofs.JsonText
import RequiredVersion.Proofs.Text
import RequiredVersion.Proofs.VersionText
import RequiredVersion.Proofs.Routes
import RequiredVersion.Proofs.FileChanges
import RequiredVersion.Proofs.Runs
import RequiredVersion.Proofs.Unpacking
import RequiredVersion.Proofs.Fetching
import RequiredVersion.Proofs.RequirementLines
import RequiredVersion.Proofs.RequirementTexts
import RequiredVersion.Proofs.RequirementFiles
import RequiredVersion.Proofs.RepeatedRequirements
import RequiredVersion.Proofs.JsonDocument
import RequiredVersion.Proofs.CacheDocument
import RequiredVersion.Proofs.CacheHistory
import RequiredVersion.Proofs.IndexDocument
import RequiredVersion.Proofs.Rebuilding
import RequiredVersion.Proofs.IndexUpdates
import RequiredVersion.Proofs.Requests
import RequiredVersion.Proofs.UserInput
import RequiredVersion.Proofs.ReleaseContents
import RequiredVersion.Proofs.IndexHistory
import RequiredVersion.Proofs.Footprint
import RequiredVersion.Proofs.UsageDocument
import RequiredVersion.Proofs.ReportDocument
import RequiredVersion.Proofs.ArchivePlaces
import RequiredVersion.Proofs.Recovery
import RequiredVersion.Proofs.ByteOrder
import RequiredVersion.Proofs.RecordedUses
import RequiredVersion.Proofs.SymbolCount
import RequiredVersion.Proofs.BuildCache
import RequiredVersion.Proofs.HeaderBlocks
import RequiredVersion.Proofs.ReadmeLines
import RequiredVersion.Proofs.MethodOwners
import RequiredVersion.Proofs.UsageOrder
import RequiredVersion.Proofs.CommentedUsages
import RequiredVersion.Proofs.StringLiterals
import RequiredVersion.Proofs.GuardedDeclarations
import RequiredVersion.Proofs.SourceFiles
import RequiredVersion.Proofs.FreshRelease
import RequiredVersion.Proofs.VersionGrammar
import RequiredVersion.Proofs.PrereleaseOrder
import RequiredVersion.Proofs.Traversal
import RequiredVersion.Proofs.DocTags
import RequiredVersion.Proofs.DocumentedVersions
import RequiredVersion.Proofs.ParentLinks
