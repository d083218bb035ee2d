import SheetSchema.CommandLine.Path
import SheetSchema.Text.Lower

/-!
Formats of workbook files, which are known by the extensions of their paths.
-/
namespace SheetSchema.CommandLine

/-- The extensions of the files that can be read as workbooks. -/
def workbookExtensions : List String := [".xlsx", ".xlsm", ".xltx", ".xltm"]

/-- An extension, in small letters, of files that cannot be read as workbooks. -/
structure UnsupportedFormat where
  extension : String
  deriving DecidableEq, Repr

def UnsupportedFormat.message (format : UnsupportedFormat) : String :=
  match format.extension with
  | ".xls" =>
    "openpyxl does not support the old .xls file format, please use xlrd to read this file, or " ++
      "convert it to the more recent .xlsx file format."
  | ".xlsb" =>
    "openpyxl does not support binary format .xlsb, please convert this file to .xlsx format if " ++
      "you want to open it with openpyxl"
  | extension =>
    "openpyxl does not support " ++ extension ++ " file format, please check you can open it " ++
      "with Excel first. Supported formats are: " ++ ",".intercalate workbookExtensions

/-- Whether a path is that of a file which can be read as a workbook. -/
def checkFormat (path : String) : Except UnsupportedFormat Unit :=
  let extension := String.ofList (Text.lower (Path.extension path).toList)
  if extension ∈ workbookExtensions then .ok () else .error { extension }

end SheetSchema.CommandLine
