import SeedCoverage.Render.Data
import SeedCoverage.Render.Markdown
import SeedCoverage.Render.Terminal
import SeedCoverage.Yaml.Printer

/-! The output formats. Only the text format has colours, and only the structured formats show gaps
unasked. -/
namespace SeedCoverage.Render

inductive Format where
  | markdown
  | text
  | json
  | yaml
  deriving DecidableEq, Repr

def Format.all : List Format := [.markdown, .text, .json, .yaml]

def Format.name : Format → Text
  | .markdown => "markdown"
  | .text => "text"
  | .json => "json"
  | .yaml => "yaml"

/-- The format of that name. -/
def Format.named? (name : Text) : Option Format := Format.all.find? fun format => format.name == name

structure Options where
  format : Format
  colored : Bool := false
  showGaps : Bool := false
  deriving DecidableEq, Repr

def report (options : Options) (report : Report) : Text :=
  match options.format with
  | .markdown => Markdown.report report options.showGaps
  | .text => Terminal.report report options.colored options.showGaps
  | .json => (Data.report report).render
  | .yaml => Yaml.render (Data.report report)

def catalog (options : Options) (catalog : Catalog) : Text :=
  match options.format with
  | .markdown => Markdown.catalog catalog.tables
  | .text => Terminal.catalog catalog.tables options.colored
  | .json => (Data.catalog catalog.tables).render
  | .yaml => Yaml.render (Data.catalog catalog.tables)

end SeedCoverage.Render
