import CommercePlatform.Bronze.LogicalHash
import CommercePlatform.Bronze.Manifest
import CommercePlatform.Bronze.ManifestJson
import CommercePlatform.Bronze.Orphan
import CommercePlatform.Bronze.Storage
import CommercePlatform.Common.Calendar
import CommercePlatform.Common.CivilDates
import CommercePlatform.Common.Errors
import CommercePlatform.Common.Isoformat
import CommercePlatform.Common.Raised
import CommercePlatform.Common.RowHash
import CommercePlatform.Common.SourceLease
import CommercePlatform.Common.UuidText
import CommercePlatform.Contract.Tables
import CommercePlatform.Control.Batch
import CommercePlatform.Control.Cursor
import CommercePlatform.Control.Heartbeat
import CommercePlatform.Control.Metadata
import CommercePlatform.Control.RowLocks
import CommercePlatform.Control.TableLease
import CommercePlatform.Control.Transactions
import CommercePlatform.Control.WatermarkChain
import CommercePlatform.Extraction.Paging
import CommercePlatform.Extraction.Partition
import CommercePlatform.Extraction.Record
import CommercePlatform.Extraction.Rewind
import CommercePlatform.Extraction.RowRejects
import CommercePlatform.Extraction.Snapshot
import CommercePlatform.Extraction.SourceTable
import CommercePlatform.Extraction.SourceValue
import CommercePlatform.Extraction.SqlOrder
import CommercePlatform.Extraction.Validation
import CommercePlatform.Generator.ExactlyOnce
import CommercePlatform.Generator.Metadata
import CommercePlatform.Generator.Service
import CommercePlatform.Generator.Transitions
import CommercePlatform.Ingestion.BatchOrder
import CommercePlatform.Ingestion.Evidence
import CommercePlatform.Ingestion.Identity
import CommercePlatform.Ingestion.Reconcile
import CommercePlatform.Ingestion.Reprocess
import CommercePlatform.Ingestion.Service
import CommercePlatform.Lib.Among
import CommercePlatform.Lib.Csv
import CommercePlatform.Lib.DeltaBuild
import CommercePlatform.Lib.Json
import CommercePlatform.Lib.JsonBytes
import CommercePlatform.Lib.JsonDumps
import CommercePlatform.Lib.JsonRead
import CommercePlatform.Lib.JsonSteps
import CommercePlatform.Lib.Latest
import CommercePlatform.Lib.Locking
import CommercePlatform.Lib.Machine
import CommercePlatform.Lib.OrderedCode
import CommercePlatform.Lib.Program
import CommercePlatform.Lib.Scd2
import CommercePlatform.Lib.Schedule
import CommercePlatform.Lib.Script
import CommercePlatform.Lib.Table
import CommercePlatform.Lib.Tiling
import CommercePlatform.Lib.Traverse
import CommercePlatform.Lib.Utf8
import CommercePlatform.Lib.Versioned
import CommercePlatform.Platform.Machine
import CommercePlatform.Platform.Player
import CommercePlatform.Platform.Source
import CommercePlatform.Platform.SourceFence
import CommercePlatform.Platform.World
import CommercePlatform.Seed.Contracts
import CommercePlatform.Serving.Export
import CommercePlatform.Serving.ExportConsistency
import CommercePlatform.Serving.ExportFailure
import CommercePlatform.Serving.Retention
import CommercePlatform.Warehouse.Boundary
import CommercePlatform.Warehouse.Build
import CommercePlatform.Warehouse.Chain
import CommercePlatform.Warehouse.Closed
import CommercePlatform.Warehouse.DataTests
import CommercePlatform.Warehouse.Facts
import CommercePlatform.Warehouse.Incremental
import CommercePlatform.Warehouse.MartHash
import CommercePlatform.Warehouse.Publish
import CommercePlatform.Warehouse.PublishGate
import CommercePlatform.Warehouse.PublishMachine
import CommercePlatform.Warehouse.PublishRuns
import CommercePlatform.Warehouse.PublishedFile
import CommercePlatform.Warehouse.Staging
import CommercePlatform.Warehouse.Unchanged
