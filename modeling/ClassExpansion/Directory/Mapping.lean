import ClassExpansion.Directory.FieldInfo

set_option autoImplicit false

/- The stored fields of an object by their declared names, taken from what the object serializes
to. -/
namespace ClassExpansion

/-- What an object serializes to. The keys of an object are distinct. -/
inductive Serialized (α : Type)
  | failed (reason : String)
  | object (entries : List (String × α))
  | other

inductive MappingFault
  | serialization (reason : String)
  | notAnObject (cls : String)
  /-- The key of the field is absent, or an earlier field has taken it. -/
  | missingField (cls field : String)
  deriving DecidableEq, Repr

namespace MappingFault

def message : MappingFault → String
  | serialization reason => "serialization failed: " ++ reason
  | notAnObject cls => "`" ++ cls ++ "` does not serialize to a map"
  | missingField cls field => "`" ++ cls ++ "` serialized without field `" ++ field ++ "`"

/-- The reason underneath. -/
def source? : MappingFault → Option String
  | serialization reason => some reason
  | _ => none

end MappingFault

namespace FieldInfo

/-- The key of a stored field in the serialized object. -/
def key (info : FieldInfo) : String := info.storage?.getD info.name

end FieldInfo

namespace Mapping

variable {α : Type}

/-- The value of the key, and the entries without it. -/
def take? (entries : List (String × α)) (key : String) : Option (α × List (String × α)) :=
  (entries.lookup key).map fun value => (value, entries.filter fun entry => entry.1 != key)

/-- Puts a value in place of an earlier one with its name, or at the end. -/
def put (mapping : List (String × α)) (name : String) (value : α) : List (String × α) :=
  if mapping.any (·.1 == name) then
    mapping.map fun entry => if entry.1 == name then (name, value) else entry
  else mapping ++ [(name, value)]

/-- Moves the value of each field in turn from the entries to the mapping. -/
def move (cls : String) : List FieldInfo → List (String × α) → List (String × α) →
    Except MappingFault (List (String × α))
  | [], _, mapping => .ok mapping
  | info :: rest, entries, mapping =>
    match take? entries info.key with
    | some (value, entries) => move cls rest entries (put mapping info.name value)
    | none => .error (.missingField cls info.name)

end Mapping

namespace ClassDirectory

def stored (directory : ClassDirectory) : List FieldInfo :=
  directory.fields.filter (·.role.isStored)

/-- The stored fields by declared name, in the order of the directory. -/
def mapping {α : Type} (directory : ClassDirectory) (serialized : Serialized α) :
    Except MappingFault (List (String × α)) :=
  match serialized with
  | .failed reason => .error (.serialization reason)
  | .other => .error (.notAnObject directory.name)
  | .object entries => Mapping.move directory.name directory.stored entries []

end ClassDirectory

end ClassExpansion
