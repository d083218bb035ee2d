/-!
Where the parts of a definition sheet stand. Rows and columns count from one.
-/
namespace SheetSchema

structure Layout where
  hierarchyColumns : Int := 10
  nameColumn : Int := 15
  typeColumn : Int := 16
  notesColumn : Int := 17
  rootFirstRow : Int := 4
  referenceFirstRow : Int := 2
  descriptionCell : Int × Int := (1, 2)
  versionCell : Int × Int := (2, 2)
  deriving DecidableEq, Repr, Inhabited

end SheetSchema
