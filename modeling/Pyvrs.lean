import Pyvrs.Foundations.ReorderBuffer
import Pyvrs.Foundations.Run
import Pyvrs.Foundations.WithNaN
import Pyvrs.Foundations.Scan
import Pyvrs.Reader.Cursor
import Pyvrs.Reader.ConfigInForce
import Pyvrs.Reader.Leakage
import Pyvrs.Reader.MultiConfig
import Pyvrs.Reader.Refinement
import Pyvrs.Filter.Runs
import Pyvrs.Filter.InOrder
import Pyvrs.Filter.Watermark
import Pyvrs.Filter.NothingLost
import Pyvrs.Foundations.BatchQueue
import Pyvrs.Writer.PyRecordable
import Pyvrs.Writer.VRSWriter
import Pyvrs.Writer.Runs
import Pyvrs.Writer.FileOrder
import Pyvrs.Foundations.Precedence
import Pyvrs.Writer.ConfigFirst
import Pyvrs.Reader.RecordSummaries
import Pyvrs.Reader.Reopen
import Pyvrs.Reader.AsyncVRSReader
import Pyvrs.Reader.AsyncReads
import Pyvrs.Foundations.PlacedList
import Pyvrs.Reader.ContentBlocks
import Pyvrs.Python.VRSReader
import Pyvrs.Foundations.Bisect
import Pyvrs.Python.Filtering
import Pyvrs.Python.RecordIndexByTime
import Pyvrs.Filter.EveryImage
import Pyvrs.Filter.Metadata
import Pyvrs.Foundations.Dict
import Pyvrs.Python.MetadataKeys
import Pyvrs.Foundations.ByteBuffer
import Pyvrs.Utils.PyBuffer
import Pyvrs.Utils.BigEndianAudio
import Pyvrs.Utils.Audio24
import Pyvrs.Utils.LookingAgain
import Pyvrs.Utils.ImageViews
import Pyvrs.Utils.InsideArrays
import Pyvrs.Foundations.Strided
import Pyvrs.Writer.IngestedArrays
import Pyvrs.Reader.IndexSearch
import Pyvrs.Python.NeighbourRecords
import Pyvrs.Python.RecordPages
import Pyvrs.Reader.GotoTime
import Pyvrs.Foundations.Fallible
import Pyvrs.Foundations.Utf8
import Pyvrs.Utils.PyUtils
import Pyvrs.Reader.DataLayouts
import Pyvrs.Reader.MetadataText
import Pyvrs.Writer.RecordContents
import Pyvrs.Writer.FailedCreation
import Pyvrs.Python.AsyncLoops
import Pyvrs.Reader.Cancellation
import Pyvrs.Python.NearestRecord
import Pyvrs.Reader.ImageConversions
import Pyvrs.Reader.Settings
import Pyvrs.Python.EnabledRecords
import Pyvrs.Reader.PlayedRecords
import Pyvrs.Reader.TrailingBlocks
import Pyvrs.Foundations.KeyedCache
import Pyvrs.Reader.NormalizeCache
import Pyvrs.Reader.SummaryQueries
import Pyvrs.Foundations.Slicing
import Pyvrs.Python.Slices
import Pyvrs.Python.FilteredReader
import Pyvrs.Python.FilteredNeighbours
import Pyvrs.Python.RecordLoops
import Pyvrs.Reader.RandomAccess
import Pyvrs.Foundations.StableSort
import Pyvrs.Writer.StreamOrder
import Pyvrs.Reader.WrittenBlocks
import Pyvrs.Writer.CreatedRecords
import Pyvrs.Python.RoundTrip
import Pyvrs.Filter.Iteration
import Pyvrs.Filter.Interleavings
import Pyvrs.Writer.Staging
import Pyvrs.Filter.OutputFile
import Pyvrs.Reader.AsyncOrder
import Pyvrs.Python.WrittenMetadata
