import SheetSchema.Report

/-!
Pages as Markdown tables, one after another. Pipes inside of a value are escaped.
-/
namespace SheetSchema.Markdown

/-- A value with a backslash before each of its pipes. -/
def escape (text : List Char) : List Char :=
  text.flatMap fun c => if c = '|' then ['\\', '|'] else [c]

/-- A line of a table. -/
def line (cells : List String) : String := "| " ++ " | ".intercalate cells ++ " |"

def value (v : Value) : String := String.ofList (escape v.display.toList)

def row (column : Column) : Except Report.ReportError String :=
  (Report.values column).map fun values => line (values.map value)

def heading (page : Page) : String := "## Page: " ++ page.name.display ++ "\n"

/-- The lines of a page's table. -/
def table (page : Page) : Except Report.ReportError String := do
  let rows ← page.rows.mapM row
  return "\n".intercalate
    (line Report.headers :: line (Report.headers.map fun _ => "---") :: rows) ++ "\n"

/-- Heading and body of a page. -/
def blocks (page : Page) : Except Report.ReportError (List String) :=
  if page.rows = [] then .ok [heading page, "_empty page_\n"]
  else (table page).map fun body => [heading page, body]

def render (pages : PageSet) : Except Report.ReportError String :=
  (pages.pages.mapM blocks).map fun parts => "\n".intercalate parts.flatten

end SheetSchema.Markdown
