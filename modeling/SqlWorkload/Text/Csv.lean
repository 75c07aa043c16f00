import SqlWorkload.Text.Quoted
/-!
# Comma-separated values

Records of fields, a comma between each two and a line end after the last. A field is quoted if it
holds a comma, a quote mark or a line end.
-/

namespace SqlWorkload.Text.Csv

def isSpecial (c : Char) : Bool := c == ',' || c == '"' || c == '\n' || c == '\r'

def needsQuotes (s : String) : Bool := s.toList.any isSpecial

def field (s : String) : String := if needsQuotes s then quote '"' s else s

def record (fields : List String) : String := joinWith "," (fields.map field) ++ "\n"

/-- The sizes of the pieces of a field that a writer keeps whole: a doubled quote mark is one, all
else is written byte by byte. -/
def fieldPieces (s : String) : List Nat :=
  let pieces := s.toList.flatMap fun c => if c = '"' then [2] else List.replicate c.utf8Size 1
  if needsQuotes s then 1 :: pieces ++ [1] else pieces

/-- The sizes of the pieces of a record, a piece for the mark after each field. -/
def recordPieces (fields : List String) : List Nat :=
  fields.flatMap fun s => fieldPieces s ++ [1]

example : record ["1", "a b", "say \"x\", y"] = "1,a b,\"say \"\"x\"\", y\"\n" := by decide +kernel

end SqlWorkload.Text.Csv
