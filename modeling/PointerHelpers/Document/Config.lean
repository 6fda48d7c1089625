import PointerHelpers.Document.Kind
import PointerHelpers.Files.Path

namespace PointerHelpers.Document

open Files

structure Config where
  package : String := "ptr"
  generator : String := "ptrgen"
  directory : Path := ⟨"."⟩
  toPointerFile : String := Kind.toPointer.defaultFileName
  fromPointerFile : String := Kind.fromPointer.defaultFileName

namespace Config

def default : Config := {}

def withFile (config : Config) (kind : Kind) (file : String) : Config :=
  match kind with
  | .toPointer => { config with toPointerFile := file }
  | .fromPointer => { config with fromPointerFile := file }

def file (config : Config) : Kind → String
  | .toPointer => config.toPointerFile
  | .fromPointer => config.fromPointerFile

def pathFor (config : Config) (kind : Kind) : Path := config.directory.join (config.file kind)

def equiv (config other : Config) : Bool :=
  config.package == other.package && config.generator == other.generator &&
    config.directory.equiv other.directory && config.toPointerFile == other.toPointerFile &&
    config.fromPointerFile == other.fromPointerFile

instance : BEq Config := ⟨equiv⟩

end Config

end PointerHelpers.Document
