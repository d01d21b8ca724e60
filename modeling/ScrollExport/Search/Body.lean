import ScrollExport.Json.Basic
import ScrollExport.Query

/-!
# Search bodies

The body of the search that opens a scroll: how many records a page holds, and a filter on the
range of the query.
-/

namespace ScrollExport.Search

/-- The format of the bounds, and the bounds that there are. -/
def rangeBounds (range : TimeRange) : Json :=
  .obj (("format", .str range.format) ::
    (range.gte.toList.map (fun b => ("gte", .str b)) ++
      range.lte.toList.map (fun b => ("lte", .str b))))

def openingBody (q : Query) : Json :=
  .obj
    [("size", .nat q.pageSize),
      ("query", .obj
        [("bool", .obj
          [("must", .arr []),
            ("filter", .arr [.obj [("range", .obj [(q.range.field, rangeBounds q.range)])]]),
            ("should", .arr []),
            ("must_not", .arr [])])])]

end ScrollExport.Search
