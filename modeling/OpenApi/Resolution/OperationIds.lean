import OpenApi.Notice
import OpenApi.Resolved.Operation

/-!
# Distinct operation ids

The operations of a group become methods of one class, so their ids have to differ. The first
operation with an id keeps it. A later one gets the id with the least number behind it that makes an
id which no operation of the group has or was given.

## Main definitions

* `freshId`: the id with a number that makes it new.
* `distinctIds`: the operations with distinct ids.
* `renamingNotices`: what is reported on the way.
-/
namespace OpenApi

open Resolved (OperationNames)

/-- An id with a number behind it. -/
def numberedId (id : String) (number : Nat) : String := id ++ toString number

/-- The id with the least positive number behind it that is not taken. One of the first numbers is
free, one more than there are taken ids. -/
def freshId (taken : List String) (id : String) : String :=
  let free := (List.range (taken.length + 1)).find? fun k => !taken.contains (numberedId id (k + 1))
  numberedId id (free.getD 0 + 1)

/-- An operation under another id. -/
def Resolved.Operation.rename (operation : Resolved.Operation) (id : String) :
    Resolved.Operation :=
  { operation with names := OperationNames.of id }

/-- Rename the operations whose id is among those kept by earlier ones. `taken` are the ids that no
new one may equal. -/
def renameRepeated : (taken kept : List String) → List Resolved.Operation →
    List Resolved.Operation
  | _, _, [] => []
  | taken, kept, operation :: rest =>
    let id := operation.names.id
    if kept.contains id then
      let renamed := freshId taken id
      operation.rename renamed :: renameRepeated (renamed :: taken) (renamed :: kept) rest
    else operation :: renameRepeated taken (id :: kept) rest

/-- The operations with distinct ids. -/
def distinctIds (operations : List Resolved.Operation) : List Resolved.Operation :=
  renameRepeated (operations.map (·.names.id)) [] operations

/-- What is reported for the operations that are renamed: the operations before and after. -/
def renamingNotices (operations : List Resolved.Operation) : List Notice :=
  (operations.zip (distinctIds operations)).filterMap fun (before, after) =>
    if before.names.id = after.names.id then none
    else some (.renamedOperation before.names.id (.operation before.method before.path)
      after.names.id)

end OpenApi
