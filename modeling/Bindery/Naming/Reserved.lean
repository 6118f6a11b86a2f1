import Bindery.Typing.Mapper

/-!
# Names that are taken

The names that the modules of a client define or import for themselves, and that names derived
from a description must therefore keep clear of.
-/

namespace Bindery.Naming

open Bindery.Typing

/-- Names that every client's runtime module defines for the other modules. -/
def runtimeNames : List String := [
  "ApiError", "BASE_URL", "BuilderConsumedError", "Configuration", "MissingParameterError",
  "OptionsBuilder", "format_collection", "request_async", "request_sync", "require"]

/-- Names that modules with model classes import to define them. -/
def modelBaseNames : List String := ["BaseModel", "ConfigDict", "Field"]

/-- Names of the arguments of emitted functions and of the methods of emitted classes. -/
def callNames : List String := ["configuration", "params", "build", "builder"]

/-- Names at the top of the endpoints module that no operation can take. -/
def endpointReserved (models : Models) : List String :=
  models.classNames ++ runtimeNames ++ annotationImports ++ modelBaseNames

/-- Names that no parameter can take, given those at the top of the module. -/
def parameterReserved (reserved : List String) : List String :=
  reserved ++ callNames ++ annotationBuiltins ++ annotationImports

/-- Names that no field of a model can take. -/
def propertyReserved (models : Models) : List String :=
  annotationBuiltins ++ annotationImports ++ modelBaseNames ++ models.classNames

end Bindery.Naming
