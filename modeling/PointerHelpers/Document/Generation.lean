import PointerHelpers.Document.GoTemplates
import PointerHelpers.Document.Values
import PointerHelpers.Files.Buffer

namespace PointerHelpers.Document

open Catalogue Files Output Template

inductive GenerationError where
  | templates (error : TemplateError)
  | creation (path : Path) (error : SystemError)
  | delivery (path : Path) (kind : Kind) (error : DeliveryError SystemError)
  deriving DecidableEq

def GenerationError.message : GenerationError → String
  | .templates error => "failed to parse templates: " ++ error.message
  | .creation path error => "failed to create " ++ path.text ++ ": " ++ error.message
  | .delivery path kind error =>
    "failed to generate " ++ path.text ++ " from template `" ++ kind.templateName ++ "`: " ++
      error.message SystemError.message

variable (templates : TemplateSet) (catalogue : Catalogue) (config : Config)

/-- Write one document to its file. A fault of the document leaves what was rendered before it. -/
def emit (kind : Kind) (system : FileSystem) : FileSystem × Except GenerationError Path :=
  let path := config.pathFor kind
  match system.create path with
  | .error error => (system, .error (.creation path error))
  | .ok (file, created) =>
    match (Buffer.mk created file "").deliver (render templates kind catalogue config) with
    | (written, .error error) => (written, .error (.delivery path kind error))
    | (written, .ok ()) => (written, .ok path)

def emitAll (system : FileSystem) : List Kind → FileSystem × Except GenerationError (List Path)
  | [] => (system, .ok [])
  | kind :: rest =>
    match emit templates catalogue config kind system with
    | (system, .error error) => (system, .error error)
    | (system, .ok path) =>
      let (system, paths) := emitAll system rest
      (system, paths.map (path :: ·))

def generateWith (system : FileSystem) : FileSystem × Except GenerationError (List Path) :=
  emitAll templates catalogue config system Kind.all

def generateFrom (templates : Except TemplateError TemplateSet) (catalogue : Catalogue)
    (config : Config) (system : FileSystem) : FileSystem × Except GenerationError (List Path) :=
  match templates with
  | .error error => (system, .error (.templates error))
  | .ok templates => generateWith templates catalogue config system

def generate (catalogue : Catalogue) (config : Config) (system : FileSystem) :
    FileSystem × Except GenerationError (List Path) :=
  generateFrom GoTemplates.templates catalogue config system

inductive Failure where
  | catalogue (error : CatalogueError)
  | generation (error : GenerationError)
  deriving DecidableEq

def Failure.message : Failure → String
  | .catalogue error => error.message
  | .generation error => error.message

/-- Check a list of types and write both documents for it. Nothing is written for types that are no
catalogue, whatever is wrong with the templates. -/
def generateTypes (types : List ScalarType) (templates : Except TemplateError TemplateSet)
    (config : Config) (system : FileSystem) : FileSystem × Except Failure (List Path) :=
  match Catalogue.ofTypes types with
  | .error error => (system, .error (.catalogue error))
  | .ok catalogue =>
    let (system, result) := generateFrom templates catalogue config system
    (system, result.mapError .generation)

end PointerHelpers.Document
