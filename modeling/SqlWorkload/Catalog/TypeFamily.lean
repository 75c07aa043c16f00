import SqlWorkload.Text.Blank
import SqlWorkload.Text.Lowercase
/-!
# Type families

A coarse classification of the type names of PostgreSQL and MySQL, by which comparison operators,
aggregate functions and literals are chosen. It looks at the trimmed, lower-cased name.
-/

namespace SqlWorkload

inductive TypeFamily where
  | integer
  | decimal
  | character
  | boolean
  | date
  | timestamp
  | time
  | other
deriving DecidableEq, Repr

/-- Whether `w` stands anywhere in a text. -/
def Text.occursIn (w : List Char) : List Char → Bool
  | [] => w.isEmpty
  | c :: rest => w.isPrefixOf (c :: rest) || Text.occursIn w rest

namespace TypeFamily

/-- The family of a trimmed, lower-cased type name. Intervals, bit strings and money come before
the numbers: no plain literal compares with them. -/
def ofLowerName (t : List Char) : TypeFamily :=
  let starts (w : String) := w.toList.isPrefixOf t
  let ends (w : String) := w.toList.isSuffixOf t
  if starts "bool" || t = "tinyint(1)".toList then boolean
  else if starts "interval" || starts "bit" || t = "money".toList then other
  else if starts "int" || starts "bigint" || starts "smallint" || starts "tinyint" ||
      starts "mediumint" || ends "serial" then integer
  else if starts "numeric" || starts "decimal" || starts "real" || starts "float" ||
      starts "double" then decimal
  else if Text.occursIn "char".toList t || ends "text" then character
  else if starts "timestamp" || t = "datetime".toList then timestamp
  else if t = "date".toList then date
  else if starts "time" then time
  else other

def ofTypeName (name : String) : TypeFamily :=
  ofLowerName (Text.lowercase (Text.trim name.toList))

def isNumeric : TypeFamily → Bool
  | integer | decimal => true
  | _ => false

def isTemporal : TypeFamily → Bool
  | date | timestamp | time => true
  | _ => false

/-- Whether there are literals that a column of the family compares with. -/
def isComparable (f : TypeFamily) : Bool := f != other

/-- Whether a least and a greatest value make sense. -/
def isOrdered (f : TypeFamily) : Bool := f.isNumeric || f.isTemporal || f == character

end TypeFamily

end SqlWorkload
