namespace PointerHelpers.Document

/-- The two documents: helpers from values to pointers, and from pointers to values. -/
inductive Kind where
  | toPointer
  | fromPointer
  deriving DecidableEq

namespace Kind

def all : List Kind := [.toPointer, .fromPointer]

def templateName : Kind → String
  | .toPointer => "scalar to pointer"
  | .fromPointer => "scalar from pointer"

def defaultFileName : Kind → String
  | .toPointer => "to_ptr.go"
  | .fromPointer => "from_ptr.go"

end Kind

end PointerHelpers.Document
