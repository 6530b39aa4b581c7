import ColumnCatalog.Basic
import ColumnCatalog.Column.Basic
import ColumnCatalog.Column.CatalogField
import ColumnCatalog.Column.DeclaredType
import ColumnCatalog.Column.Edit
import ColumnCatalog.Column.TypeName
import ColumnCatalog.DataSource
import ColumnCatalog.DataType
import ColumnCatalog.Proofs.Building
import ColumnCatalog.Proofs.ByteOffsets
import ColumnCatalog.Proofs.ByteStrings
import ColumnCatalog.Proofs.ChosenTypes
import ColumnCatalog.Proofs.Db2NameTable
import ColumnCatalog.Proofs.Db2Names
import ColumnCatalog.Proofs.DefinitionEntries
import ColumnCatalog.Proofs.DictionaryFields
import ColumnCatalog.Proofs.EditingReach
import ColumnCatalog.Proofs.FieldGroups
import ColumnCatalog.Proofs.FieldLookup
import ColumnCatalog.Proofs.FirstMatch
import ColumnCatalog.Proofs.FlagFields
import ColumnCatalog.Proofs.IntegerReadings
import ColumnCatalog.Proofs.LatestEntries
import ColumnCatalog.Proofs.MissReports
import ColumnCatalog.Proofs.ModifierNames
import ColumnCatalog.Proofs.NamedTypes
import ColumnCatalog.Proofs.NumeralGrammar
import ColumnCatalog.Proofs.Numerals
import ColumnCatalog.Proofs.OrdinalOrder
import ColumnCatalog.Proofs.PackedModifiers
import ColumnCatalog.Proofs.PaddedNumerals
import ColumnCatalog.Proofs.Padding
import ColumnCatalog.Proofs.PropertyRequests
import ColumnCatalog.Proofs.PropertySheet
import ColumnCatalog.Proofs.PropertyTable
import ColumnCatalog.Proofs.PropertyWrites
import ColumnCatalog.Proofs.RetainedModifier
import ColumnCatalog.Proofs.RowFormat
import ColumnCatalog.Proofs.RowModifiers
import ColumnCatalog.Proofs.RowOrder
import ColumnCatalog.Proofs.RowReadings
import ColumnCatalog.Proofs.RowRoundTrip
import ColumnCatalog.Proofs.RowSources
import ColumnCatalog.Proofs.StepwiseReading
import ColumnCatalog.Proofs.TableLoading
import ColumnCatalog.Proofs.TimestampTexts
import ColumnCatalog.Proofs.Traversal
import ColumnCatalog.Proofs.TypeAnnouncements
import ColumnCatalog.Proofs.TypeCoherence
import ColumnCatalog.Proofs.TypeResolution
import ColumnCatalog.Proofs.TypeSearch
import ColumnCatalog.Proofs.TypeSuffixes
import ColumnCatalog.Proofs.VersionGrammar
import ColumnCatalog.Proofs.VersionOrder
import ColumnCatalog.Proofs.VersionReadings
import ColumnCatalog.Proofs.VersionTexts
import ColumnCatalog.Proofs.WritingBack
import ColumnCatalog.Property.Basic
import ColumnCatalog.Property.Session
import ColumnCatalog.Property.Table
import ColumnCatalog.Property.Value
import ColumnCatalog.Row.Basic
import ColumnCatalog.Row.Dictionary
import ColumnCatalog.Row.FieldValue
import ColumnCatalog.Server.FieldGroup
import ColumnCatalog.Server.Version
import ColumnCatalog.TableColumns
import ColumnCatalog.Text.Basic
import ColumnCatalog.Text.Decimal
import ColumnCatalog.Trace
