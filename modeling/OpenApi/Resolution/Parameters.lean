import OpenApi.Notice
import OpenApi.Resolved.Operation

/-!
# The parameters of an operation

Generated code tells the parameters of an operation apart by their identifiers, wherever they are
sent. Of several parameters with one identifier the last is kept, in the position of the first.

## Main definitions

* `distinctParameters`: the parameters that are kept.
* `Operation.settleParameters`: an operation with only those, sorted by what they are.
-/
namespace OpenApi

open Resolved (Buckets)

/-- The parameters with each identifier once: the last one, in the position of the first. -/
def distinctParameters (parameters : List Resolved.Parameter) : List Resolved.Parameter :=
  (settle (parameters.map fun parameter => (parameter.names.identifier, parameter))).map Prod.snd

/-- What is reported for the parameters that replace earlier ones. `seen` are the identifiers so
far. -/
def replacementNotices (operation : String) : (seen : List String) →
    List Resolved.Parameter → List Notice
  | _, [] => []
  | seen, parameter :: rest =>
    let identifier := parameter.names.identifier
    if seen.contains identifier then
      .replacedParameter operation identifier :: replacementNotices operation seen rest
    else replacementNotices operation (identifier :: seen) rest

namespace Resolved.Operation

/-- The operation with each parameter once, and the buckets of those. -/
def settleParameters (operation : Operation) : Operation :=
  let parameters := distinctParameters operation.parameters
  { operation with parameters, buckets := Buckets.of parameters }

end Resolved.Operation

end OpenApi
