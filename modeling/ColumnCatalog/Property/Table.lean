/-
The property table of columns, in the order of the property sheet, and what
can be done with it: find a property, list those of a column, and turn a value
for a property into an edit or the reason why it is refused.
-/
import ColumnCatalog.Basic
import ColumnCatalog.Property.Basic

namespace ColumnCatalog

/-- The title of a dictionary entry as a property value, null in its absence. -/
def PropertyValue.ofMeaning? {α : Type} [Dictionary α] (meaning? : Option α) : PropertyValue :=
  .ofText? (meaning?.map Dictionary.title)

/-- The data type of a column, or its name when the type is not known. -/
def PropertyValue.ofDeclared (declared : DeclaredType) : PropertyValue :=
  match declared.dataType? with
  | some type => .dataType type
  | none => .text declared.name

def columnProperties : List Property :=
  [{ id := "name", name := "Name", order := 1,
     read := fun c => .text c.name },
   { id := "ordinalPosition", name := "Position", order := 2,
     read := fun c => .integer c.ordinal.toInt64 },
   { id := "owner", name := "Owner", order := 19, category? := some .owner,
     read := fun c => .text c.table.text },
   { id := "typeSchema", name := "Type Schema", order := 20, category? := some .owner,
     read := fun c => .ofText? c.type.schema? },
   { id := "dataType", name := "Data Type", order := 21,
     editor? := some .dataType, updatable := true,
     read := fun c => .ofDeclared c.type },
   { id := "maxLength", name := "Length", order := 38,
     editor? := some .maxLength, updatable := true,
     read := fun c => .integer c.maxLength },
   { id := "scale", name := "Scale", order := 39, rendering := .positive,
     read := fun c => .ofInt32? c.scale? },
   { id := "stringLength", name := "String Length", order := 40,
     read := fun c => .ofText? c.stringLength? },
   { id := "precision", name := "Precision", order := 42, viewable := false,
     rendering := .positive,
     read := fun c => .ofInt32? c.precision? },
   { id := "required", name := "Not Null", order := 43,
     editor? := some .required, updatable := true,
     read := fun c => .bool c.required },
   { id := "defaultValue", name := "Default", order := 44,
     editor? := some .defaultValue,
     read := fun c => .ofText? c.defaultValue? },
   { id := "identity", name := "Identity", order := 45,
     read := fun c => .bool c.identity },
   { id := "generated", name := "Generated", order := 46, viewable := false,
     read := fun c => .ofMeaning? c.generated? },
   { id := "generatedText", name := "Generated Text", order := 47, viewable := false,
     read := fun c => .ofText? c.generatedText? },
   { id := "keySeq", name := "Key Sequence", order := 120, viewable := false,
     read := fun c => .ofInt32? c.keySequence? },
   { id := "partKeySeq", name := "Partitioning Key Sequence", order := 121,
     viewable := false,
     read := fun c => .ofInt32? c.partKeySequence? },
   { id := "lobCompact", name := "LOB Compact", order := 134, viewable := false,
     read := fun c => .bool c.lobCompact },
   { id := "compress", name := "Compress", order := 136, viewable := false,
     read := fun c => .ofMeaning? c.compression? },
   { id := "hidden", name := "Hidden", order := 137, viewable := false,
     read := fun c => .ofMeaning? c.hidden? },
   { id := "rowBegin", name := "Row Begin", order := 138, viewable := false,
     category? := some .temporal,
     read := fun c => .ofText? (c.temporal?.bind (·.rowBegin?)) },
   { id := "rowEnd", name := "Row End", order := 139, viewable := false,
     category? := some .temporal,
     read := fun c => .ofText? (c.temporal?.bind (·.rowEnd?)) },
   { id := "transactionStartId", name := "Transaction Start Id", order := 140,
     viewable := false, category? := some .temporal,
     read := fun c => .ofText? (c.temporal?.bind (·.transactionStartId?)) },
   { id := "colcard", name := "Cardinality", order := 150, viewable := false,
     category? := some .statistics,
     read := fun c => .ofInt64? c.statistics.cardinality? },
   { id := "avgLength", name := "Average Length", order := 152, viewable := false,
     category? := some .statistics,
     read := fun c => .ofInt32? c.statistics.averageLength? },
   { id := "low2key", name := "Second Lowest Value", order := 153, viewable := false,
     category? := some .statistics,
     read := fun c => .ofText? c.statistics.secondLowest? },
   { id := "high2key", name := "Second Highest Value", order := 154, viewable := false,
     category? := some .statistics,
     read := fun c => .ofText? c.statistics.secondHighest? },
   { id := "pctInlined", name := "Percent Inlined", order := 155, viewable := false,
     category? := some .statistics,
     read := fun c => .ofInt32? (c.inlining?.bind (·.percentInlined?)) },
   { id := "pctEncoded", name := "Percent Encoded", order := 156, viewable := false,
     category? := some .statistics,
     read := fun c => .ofInt32? (c.stringUnits?.bind (·.percentEncoded?)) },
   { id := "nbQuantiles", name := "Quantiles", order := 157, viewable := false,
     category? := some .statistics,
     read := fun c => .ofInt32? (c.collation?.bind (·.quantiles?)) },
   { id := "nbMostFreq", name := "Most Frequent Values", order := 158, viewable := false,
     category? := some .statistics,
     read := fun c => .ofInt32? (c.collation?.bind (·.mostFrequent?)) },
   { id := "nbNulls", name := "Nulls", order := 159, viewable := false,
     category? := some .statistics,
     read := fun c => .ofInt64? c.statistics.nulls? },
   { id := "collationSchema", name := "Collation Schema", order := 180,
     viewable := false, category? := some .collation,
     read := fun c => .ofText? (c.collation?.bind (·.schema?)) },
   { id := "collationName", name := "Collation Name", order := 181, viewable := false,
     category? := some .collation,
     read := fun c => .ofText? (c.collation?.bind (·.name?)) },
   { id := "columnEncoding", name := "Encoding", order := 200,
     category? := some .redshift, redshiftOnly := true,
     read := fun c => .ofText? (c.redshift?.bind (·.encoding?)) },
   { id := "distKey", name := "Distribution Key", order := 201, viewable := false,
     category? := some .redshift, redshiftOnly := true,
     read := fun c => .bool (c.redshift?.any (·.distributionKey)) },
   { id := "sortKey", name := "Sort Key", order := 202, viewable := false,
     category? := some .redshift, redshiftOnly := true,
     read := fun c =>
       .integer ((c.redshift?.map RedshiftFacts.sortKey).getD 0).toInt64 },
   { id := "description", name := "Description", order := 999,
     editor? := some .description, updatable := true, multiline := true,
     read := fun c => .ofText? c.description? }]

def findProperty? (id : String) : Option Property :=
  columnProperties.find? fun property => property.id == id

namespace Column

def properties (column : Column) : List (Property × PropertyValue) :=
  (columnProperties.filter fun property => property.appliesTo column).map
    fun property => (property, property.read column)

/-- The edit that a value for a property stands for.  An unknown id is found
first, then a property without an editor for this column, then a value that
the editor does not take. -/
def propertyEdit (column : Column) (id : String) (value : PropertyValue) :
    Except CatalogError Edit :=
  match findProperty? id with
  | none => .error (.unknownProperty id)
  | some property =>
      match property.grantedEditor? column with
      | none => .error (.readOnlyProperty id)
      | some editor =>
          match editor.edit? value with
          | none => .error (.unfitValue id editor.expected)
          | some change => .ok change

end Column

end ColumnCatalog
