import ClassExpansion.Class.Fault
import ClassExpansion.Text.UpperSnake

set_option autoImplicit false

/- Marker types, which give a field its role and hold the type of its values. -/
namespace ClassExpansion.Ty

/-- The name of a type: the last name of its path. -/
def name? : Ty → Option String
  | path false _ segments => segments.getLast?.map fun s => Name.unraw s.name
  | _ => none

/-- The type without any grouping around it. -/
def peel : Ty → Ty
  | group inner => inner.peel
  | paren inner => inner.peel
  | ty => ty

/-- Whether the type is a class variable, in any grouping. -/
def wrapsClassVar (ty : Ty) : Bool :=
  match ty.peel.name? with
  | some name => Text.upperSnake name == Role.classVar.markerName
  | none => false

/-- The role that the name of the type gives. -/
def namedRole? (ty : Ty) : Option Role :=
  ty.name?.bind fun name => Role.ofMarker? (Text.upperSnake name)

/-- The role that the type gives: by its name, or as a class variable in some grouping. -/
def markerRole? (ty : Ty) : Option Role :=
  match ty.namedRole? with
  | some role => some role
  | none => if ty.wrapsClassVar then some .classVar else none

/-- The types among the arguments of the last segment. -/
def typeArguments : Ty → List Ty
  | path _ _ segments =>
    match segments.getLast? with
    | some (.mk _ (.angled _ arguments)) => arguments.filterMap GenericArgument.type?
    | _ => []
  | _ => []

/-- The only type argument, if there is exactly one. -/
def onlyArgument? (ty : Ty) : Option Ty :=
  match ty.typeArguments with
  | [argument] => some argument
  | _ => none

/-- The type of the values that a field of this type holds. -/
def valueType (ty : Ty) : Except Fault Ty :=
  match ty.markerRole? with
  | none => .ok ty
  | some role =>
    match ty.peel.onlyArgument? with
    | some argument => .ok argument
    | none => .error (.markerArgument role)

end ClassExpansion.Ty
