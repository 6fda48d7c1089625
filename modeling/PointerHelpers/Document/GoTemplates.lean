import PointerHelpers.Template.Printer
import PointerHelpers.Template.TemplateSet

namespace PointerHelpers.Document.GoTemplates

open Template

def lines (texts : List String) : String := String.join (texts.map (· ++ "\n"))

def header : String := lines [
  "// Code generated by " ++ braced "generator" ++ ". DO NOT EDIT.",
  "",
  "package " ++ braced "package",
  braced "#if imports",
  "",
  "import (",
  braced "#each imports",
  "\t" ++ braced "alias_prefix" ++ "\"" ++ braced "locator" ++ "\"",
  braced "/each",
  ")",
  braced "/if"]

/-- The header, and three functions for each type. -/
def document (func sliceFunc mapFunc : String) : String := lines [
  braced "> header",
  braced "#each types",
  "",
  braced ("> " ++ func),
  "",
  braced ("> " ++ sliceFunc),
  "",
  braced ("> " ++ mapFunc),
  braced "/each"]

variable (name symbol : String)

def toPointer : String := lines [
  "// " ++ name ++ " returns a pointer value for the " ++ symbol ++ " value passed in.",
  "func " ++ name ++ "(v " ++ symbol ++ ") *" ++ symbol ++ r" {",
  "\treturn &v",
  r"}"]

def toPointerSlice : String := lines [
  "// " ++ name ++ "Slice returns a slice of " ++ symbol ++ " pointers from the values",
  "// passed in. Each pointer refers to its own copy of the value.",
  "func " ++ name ++ "Slice(vs []" ++ symbol ++ ") []*" ++ symbol ++ r" {",
  "\tps := make([]*" ++ symbol ++ ", len(vs))",
  "\tfor i := range vs" ++ r" {",
  "\t\tv := vs[i]",
  "\t\tps[i] = &v",
  "\t" ++ r"}",
  "",
  "\treturn ps",
  r"}"]

def toPointerMap : String := lines [
  "// " ++ name ++ "Map returns a map of " ++ symbol ++ " pointers from the values",
  "// passed in. Each pointer refers to its own copy of the value.",
  "func " ++ name ++ "Map(vs map[string]" ++ symbol ++ ") map[string]*" ++ symbol ++ r" {",
  "\tps := make(map[string]*" ++ symbol ++ ", len(vs))",
  "\tfor k := range vs" ++ r" {",
  "\t\tv := vs[k]",
  "\t\tps[k] = &v",
  "\t" ++ r"}",
  "",
  "\treturn ps",
  r"}"]

def fromPointer : String := lines [
  "// To" ++ name ++ " returns the " ++ symbol ++ " value p points to, or the " ++ symbol,
  "// zero value if p is nil.",
  "func To" ++ name ++ "(p *" ++ symbol ++ ") (v " ++ symbol ++ r") {",
  "\tif p == nil" ++ r" {",
  "\t\treturn v",
  "\t" ++ r"}",
  "",
  "\treturn *p",
  r"}"]

def fromPointerSlice : String := lines [
  "// To" ++ name ++ "Slice returns a slice of the " ++ symbol ++ " values the pointers",
  "// passed in point to. Nil pointers become the " ++ symbol ++ " zero value.",
  "func To" ++ name ++ "Slice(vs []*" ++ symbol ++ ") []" ++ symbol ++ r" {",
  "\tps := make([]" ++ symbol ++ ", len(vs))",
  "\tfor i, v := range vs" ++ r" {",
  "\t\tps[i] = To" ++ name ++ "(v)",
  "\t" ++ r"}",
  "",
  "\treturn ps",
  r"}"]

def fromPointerMap : String := lines [
  "// To" ++ name ++ "Map returns a map of the " ++ symbol ++ " values the pointers",
  "// passed in point to. Nil pointers become the " ++ symbol ++ " zero value.",
  "func To" ++ name ++ "Map(vs map[string]*" ++ symbol ++ ") map[string]" ++ symbol ++ r" {",
  "\tps := make(map[string]" ++ symbol ++ ", len(vs))",
  "\tfor k, v := range vs" ++ r" {",
  "\t\tps[k] = To" ++ name ++ "(v)",
  "\t" ++ r"}",
  "",
  "\treturn ps",
  r"}"]

def texts : List (String × String) :=
  let name := braced "name"
  let symbol := braced "symbol"
  [("header", header),
    ("scalar to pointer",
      document "to pointer func" "to pointer slice func" "to pointer map func"),
    ("scalar from pointer",
      document "from pointer func" "from pointer slice func" "from pointer map func"),
    ("to pointer func", toPointer name symbol),
    ("to pointer slice func", toPointerSlice name symbol),
    ("to pointer map func", toPointerMap name symbol),
    ("from pointer func", fromPointer name symbol),
    ("from pointer slice func", fromPointerSlice name symbol),
    ("from pointer map func", fromPointerMap name symbol)]

def templates : Except TemplateError TemplateSet := TemplateSet.empty.defineAll texts

end PointerHelpers.Document.GoTemplates
