import ScrollExport.Table
import ScrollExport.Text.Bytes

/-!
# Delimited text

A table as lines of fields: the header and one line for each row. A field stands between quotes if
it holds the delimiter, a quote or a line break, and a quote inside it is written twice. A line of
one empty field is two quotes, so that it is no blank line.
-/

namespace ScrollExport.Delimited

open Text

def quote : UInt8 := byteOf '"'

def lineFeed : UInt8 := byteOf '\n'

def carriageReturn : UInt8 := byteOf '\r'

/-- A byte that cannot stand in a bare field. -/
def isSpecial (delimiter b : UInt8) : Bool :=
  b = delimiter || b = quote || b = carriageReturn || b = lineFeed

/-- Write every quote twice. -/
def doubleQuotes (bytes : List UInt8) : List UInt8 :=
  bytes.flatMap fun b => if b = quote then [quote, quote] else [b]

def encodeField (delimiter : UInt8) (bytes : List UInt8) : List UInt8 :=
  if bytes.any (isSpecial delimiter) then quote :: doubleQuotes bytes ++ [quote] else bytes

def encodeRecord (delimiter : UInt8) (fields : List (List UInt8)) : List UInt8 :=
  let line := [delimiter].intercalate (fields.map (encodeField delimiter))
  (if line = [] then [quote, quote] else line) ++ [lineFeed]

def encodeRecords (delimiter : UInt8) (records : List (List (List UInt8))) : List UInt8 :=
  records.flatMap (encodeRecord delimiter)

def fieldBytes (s : String) : List UInt8 :=
  utf8 s.toList

def ofTable (delimiter : UInt8) (t : Table) : List UInt8 :=
  encodeRecords delimiter ((t.header :: t.textGrid).map fun record => record.map fieldBytes)

end ScrollExport.Delimited
