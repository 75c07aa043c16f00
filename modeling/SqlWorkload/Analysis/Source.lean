import SqlWorkload.Failure
import SqlWorkload.Catalog.Schema
/-!
# Catalog sources

What the system catalog of a database answers about one namespace. Each question may fail.
-/

namespace SqlWorkload

/-- A column as a catalog reports it. -/
structure ColumnRow where
  name : String
  dataType : String
  isNullable : Bool := true
  ordinal : Int := 0
  maxLength : Option Int := none
  isAutoIncrement : Bool := false
deriving DecidableEq, Repr

structure ForeignKeyRow where
  column : String
  target : ColumnRef
deriving DecidableEq, Repr

structure IndexRow where
  name : String
  column : String
  isUnique : Bool
deriving DecidableEq, Repr

structure CatalogSource where
  space : String
  /-- The tables of the namespace, in any order. -/
  tables : Except DatabaseError (List String)
  columns : String → Except DatabaseError (List ColumnRow)
  primaryKey : String → Except DatabaseError (List String)
  foreignKeys : String → Except DatabaseError (List ForeignKeyRow)
  /-- The indexes that do not serve the primary key, with a row for each of their columns. -/
  indexes : String → Except DatabaseError (List IndexRow)
  rowEstimate : String → Except DatabaseError (Option Int)

/-- What can be asked about one table. -/
inductive CatalogPart where
  | columns
  | primaryKey
  | foreignKeys
  | indexes
  | rowEstimate
deriving DecidableEq, Repr

inductive CatalogCall where
  | tables
  | part (p : CatalogPart) (table : String)
deriving DecidableEq, Repr

/-- The part of a table's metadata, in words. -/
def CatalogPart.label : CatalogPart → String
  | columns => "columns"
  | primaryKey => "primary key"
  | foreignKeys => "foreign keys"
  | indexes => "indexes"
  | rowEstimate => "row estimate"

end SqlWorkload
