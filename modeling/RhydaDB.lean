import RhydaDB.ByteStrings
import RhydaDB.ByteMap
import RhydaDB.FiniteRuns
import RhydaDB.CqlValue
import RhydaDB.CqlValueRoundTrip
import RhydaDB.KeyCodec
import RhydaDB.Schema
import RhydaDB.PipelineFifo
import RhydaDB.AtomicPrograms
import RhydaDB.Storage
import RhydaDB.PipelineProgress
import RhydaDB.StorageSpec
import RhydaDB.StorageRefinement
import RhydaDB.SequentialStore
import RhydaDB.StorageContract
import RhydaDB.ConcurrentStore
import RhydaDB.CacheCoherence
import RhydaDB.CqlLiteral
import RhydaDB.RowCodec
import RhydaDB.Statement
import RhydaDB.WriteStatements
import RhydaDB.SelectStatement
import RhydaDB.ExecuteStatement
import RhydaDB.BindMetadata
import RhydaDB.Server
import RhydaDB.Acknowledgement
import RhydaDB.OperandTyping
import RhydaDB.ResponseWriter
import RhydaDB.SchemaStatements
import RhydaDB.Connection
import RhydaDB.Accesses
import RhydaDB.PreparedIds
import RhydaDB.PreparedMeaning
import RhydaDB.SessionOrder
import RhydaDB.Interference
import RhydaDB.Catalog
import RhydaDB.CatalogSpec
import RhydaDB.SeedSystem
import RhydaDB.SerdeJson
import RhydaDB.CatalogHistory
import RhydaDB.SequentialServer
import RhydaDB.CatalogIntegrity
import RhydaDB.SchemaMirror
import RhydaDB.MirrorPrograms
import RhydaDB.MirroredCatalog
import RhydaDB.MirroredStatements
import RhydaDB.MirrorRuns
import RhydaDB.WireBounds
import RhydaDB.WellFormedTables
import RhydaDB.CreatedTables
import RhydaDB.StoredRows
import RhydaDB.PointProjection
import RhydaDB.UpdateMerge
import RhydaDB.SelectStream
import RhydaDB.SelectDistinct
import RhydaDB.StoredTables
import RhydaDB.SelectColumns
import RhydaDB.WriteFilters
import RhydaDB.ClusteringOrder
import RhydaDB.ByteReaders
import RhydaDB.Protocol
import RhydaDB.ResultFrames
import RhydaDB.CanonicalEncodings
import RhydaDB.ColumnResolution
import RhydaDB.DamagedRows
import RhydaDB.ErrorReports
import RhydaDB.FailedStatements
import RhydaDB.RowCacheBound
import RhydaDB.ConcurrentStatements
import RhydaDB.FramedRequests
import RhydaDB.AstCache
import RhydaDB.TableAnswers
import RhydaDB.PagedSelect
