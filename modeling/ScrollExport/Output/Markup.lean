import ScrollExport.Table

/-!
# HTML tables

A table as an HTML element, the identifier of a record as the heading of its row. The characters
with a meaning in HTML are written as entities.
-/

namespace ScrollExport.Markup

def escapeChar (c : Char) : List Char :=
  match c with
  | '&' => "&amp;".toList
  | '<' => "&lt;".toList
  | '>' => "&gt;".toList
  | '"' => "&quot;".toList
  | '\'' => "&#39;".toList
  | c => [c]

def escape (s : String) : List Char :=
  s.toList.flatMap escapeChar

def spaces (n : Nat) : List Char :=
  List.replicate n ' '

/-- A line with one element around an escaped text. -/
def cellLine (tag : String) (text : String) : List Char :=
  spaces 6 ++ '<' :: tag.toList ++ '>' :: escape text ++ '<' :: '/' :: tag.toList ++ ['>', '\n']

def line (depth : Nat) (s : String) : List Char :=
  spaces depth ++ s.toList ++ ['\n']

def openTable (cls : String) : List Char :=
  "<table border=\"1\" class=\"".toList ++ escape cls ++ "\">\n".toList

def headLines (header : List String) : List Char :=
  line 2 "<thead>" ++ line 4 "<tr style=\"text-align: right;\">" ++
    header.flatMap (cellLine "th") ++ line 4 "</tr>" ++ line 2 "</thead>"

/-- A row: the first text is its heading. -/
def rowLines (texts : List String) : List Char :=
  line 4 "<tr>" ++ (texts.take 1).flatMap (cellLine "th") ++
    (texts.drop 1).flatMap (cellLine "td") ++ line 4 "</tr>"

def ofTable (cls : String) (t : Table) : List Char :=
  openTable cls ++ headLines t.header ++ line 2 "<tbody>" ++ t.textGrid.flatMap rowLines ++
    line 2 "</tbody>" ++ line 0 "</table>"

end ScrollExport.Markup
