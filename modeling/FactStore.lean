import FactStore.Main
import FactStore.Proofs.Closure.Saturation
import FactStore.Proofs.SymbolTable.Interning
import FactStore.Proofs.Tuple.Codec
import FactStore.Proofs.Program.Session
import FactStore.Proofs.Program.Completeness
import FactStore.Proofs.Number.Decimal
import FactStore.Proofs.Schema.Signature
import FactStore.Proofs.Number.BinaryFloat
import FactStore.Proofs.Facts.Field
import FactStore.Proofs.Facts.Line
import FactStore.Proofs.Relation.Contents
import FactStore.Proofs.Facts.File
import FactStore.Proofs.FileTree
import FactStore.Proofs.Facts.RoundTrip
import FactStore.Proofs.Relation.History
import FactStore.Proofs.Relation.Walk
import FactStore.Proofs.Relation.Transfer
import FactStore.Proofs.Facts.Load
import FactStore.Proofs.Program.Pairs
import FactStore.Proofs.Program.RunAll
import FactStore.Proofs.SymbolTable.Lookups
import FactStore.Proofs.Store.Growth
import FactStore.Proofs.Tuple.RoundTrip
import FactStore.Proofs.Program.Soundness
import FactStore.Proofs.Store.Legible
import FactStore.Proofs.Program.Issued
import FactStore.Proofs.Store.RowCalls
import FactStore.Proofs.Relation.LiveWalk
import FactStore.Proofs.Program.FirstOfName
import FactStore.Proofs.Program.Registration
import FactStore.Proofs.Program.Views
import FactStore.Proofs.Program.Registry
import FactStore.Proofs.Facts.Columns
import FactStore.Proofs.Facts.LineRoundTrip
import FactStore.Proofs.Facts.StrictLoad
import FactStore.Proofs.Facts.LenientLoad
import FactStore.Proofs.Closure.Rounds
import FactStore.Proofs.Program.Rerun
import FactStore.Proofs.Relation.BulkInsert
import FactStore.Proofs.Facts.Reload
import FactStore.Proofs.Schema.Declaration
import FactStore.Proofs.Store.Query
import FactStore.Proofs.Tuple.Access
import FactStore.Proofs.Tuple.Workbench
import FactStore.Proofs.Closure.Distance
import FactStore.Proofs.Facts.FieldBounds
import FactStore.Proofs.Config.Sources
import FactStore.Proofs.CommandLine.Configured
