import ScrollExport.Table

/-!
# JSON listings

A table as an array of objects: the identifier of a record first, then its fields. A field that a
record lacks is left out.
-/

namespace ScrollExport.Listing

def ofRecord (r : Record) : Json :=
  .obj ((Table.idHeading, .str r.id) :: r.fields)

def ofTable (t : Table) : Json :=
  .arr (t.rows.map ofRecord)

end ScrollExport.Listing
