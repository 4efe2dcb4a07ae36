/- # The table of a registry

All functions that can be reached, in a row for each family that has any: the
interfaces they come from and the functions with their selectors, in the order
of their texts and wrapped to six tenths of the width of the screen.

Key definitions: `TableRow`, `Registry.rows`, `Registry.summary`.
-/
import Chronicle.Registry.Basic
import Chronicle.Text.Shown

namespace Chronicle

/-- The row of a family. -/
structure TableRow where
  family : Family
  /-- The interfaces in the order of registration. -/
  interfaces : List String
  /-- The lines that list the functions. -/
  lines : List String
  deriving DecidableEq, Repr

namespace TableRow

/-- The texts of the cells. -/
def cells (row : TableRow) : List String :=
  [row.family.name, ", ".intercalate row.interfaces, "\n".intercalate row.lines]

end TableRow

namespace Registry

/-- The title of the table, with its style. -/
def tableTitle : String := "[bold magenta]Registered Function Selectors"

/-- The headings of the columns. -/
def tableHeadings : List String := ["Family", "Interfaces", "Functions"]

/-- How a function is listed. -/
def listing (full : Bool) (entry : Entry) : String :=
  entry.label full ++ " " ++ entry.selectorText

/-- The width of the column of functions on a screen with that many columns. -/
def listingWidth (columns : Int) : Int := (columns * 6).tdiv 10

/-- The row of a family. -/
def row (registry : Registry) (full : Bool) (columns : Int) (family : Family) : TableRow :=
  let entries := registry.entriesFor family
  { family := family
    interfaces := (entries.map (·.interface)).eraseDups
    lines := Text.wrapped ((entries.map (listing full)).mergeSort (· ≤ ·)) (listingWidth columns) }

/-- The rows of the table. -/
def rows (registry : Registry) (full : Bool) (columns : Int) : List TableRow :=
  (Family.all.filter fun family => !(registry.entriesFor family).isEmpty).map
    (registry.row full columns)

/-- How many functions there are, in words. -/
def summary (registry : Registry) : String :=
  registry.size.repr ++ " selectors registered, " ++ registry.collisions.length.repr ++
    " shadowed by earlier interfaces"

end Registry

end Chronicle
