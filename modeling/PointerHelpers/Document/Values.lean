import PointerHelpers.Catalogue.Basic
import PointerHelpers.Document.Config
import PointerHelpers.Template.Renderer

namespace PointerHelpers.Document

open Catalogue Template

def importScope (reference : Reference) : Scope :=
  let chosen :=
    match reference.chosenName with
    | some name => name ++ " "
    | none => ""
  ((Scope.empty.text "locator" reference.locator).text "alias_prefix" chosen).text
    "reference" reference.name

def typeScope (type : ScalarType) : Scope :=
  ((Scope.empty.text "type" type.name).text "name" type.displayName).text "symbol" type.symbol

def documentScope (catalogue : Catalogue) (config : Config) : Scope :=
  (((Scope.empty.text "generator" config.generator).text "package" config.package).list
    "imports" (catalogue.requiredReferences.map importScope)).list
    "types" (catalogue.types.map typeScope)

def render (templates : TemplateSet) (kind : Kind) (catalogue : Catalogue) (config : Config) :
    Rendering :=
  templates.render kind.templateName (documentScope catalogue config)

end PointerHelpers.Document
