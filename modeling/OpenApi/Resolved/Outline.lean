import OpenApi.Json.Basic
import OpenApi.Resolved.Api

/-!
# Outlines of resolved APIs

The names and kinds of a resolved API, without its details.

## Main definitions

* `Api.outline`: the outline.
-/
namespace OpenApi.Resolved

open Json (member)

/-- The class, the kind and the parent of a model. -/
def Model.outline (model : Model) : Json :=
  .object (member "name" (.string model.className)
    ++ member "kind" (.string model.kind.name)
    ++ member "parent" (.ofOption .string model.parent))

/-- What an operation is called, where it is, and what it returns. -/
def Operation.outline (operation : Operation) : Json :=
  .object (member "operationId" (.string operation.names.id)
    ++ member "method" (.string operation.method.name)
    ++ member "path" (.string operation.path)
    ++ member "returnType" (.ofOption .string operation.returnType))

/-- The class of a group with its operations. -/
def Group.outline (group : Group) : Json :=
  .object (member "className" (.string group.className)
    ++ member "operations" (.array (group.operations.map Operation.outline)))

/-- The title and the version, the models, and the operations in their groups. -/
def Api.outline (api : Api) : Json :=
  .object
    (member "info" (.object
      (member "title" (.string api.info.title) ++ member "version" (.string api.info.version)))
    ++ member "models" (.array (api.models.map Model.outline))
    ++ member "operationGroups" (.array (api.groups.map Group.outline)))

end OpenApi.Resolved
