import AccessLog.Value.Table

/-!
# Where a request went and where it came from

The requested path of a request is the one the client asked for. A gateway may
be mounted under a root path, and the path it hands over may or may not include
that root: the path is taken to include it when it is the root itself or
continues it at a `/`.
-/

namespace AccessLog

def isUnderRoot (root path : String) : Bool :=
  path == root || (root ++ "/").toList.isPrefixOf path.toList

/-- The path with its root, given either with or without it. -/
def fullPath (root path : String) : String :=
  if root = "" || isUnderRoot root path then path else root ++ path

/-- The path that the client asked for. Only texts can be joined; any other
path is kept as it is when there is no root, or when it equals the root. -/
def requestedPath (scope : Table) : Except Fault Value :=
  let path := (scope.get "path").orElse (.text "")
  let root := (scope.get "root_path").orElse (.text "")
  if !root.isTruthy || path.same root then .ok path
  else
    match path, root with
    | .text p, .text r => .ok (.text (fullPath r p))
    | .text _, _ => .error .unsupported
    | .bytes _, _ => .error .unsupported
    | .buffer _, _ => .error .unsupported
    | _, _ => .error .noOperation

/-- The client's host: the first element of the client's address, `null` when
there is no address. -/
def clientHost (scope : Table) : Except Fault Value :=
  let client := scope.get "client"
  if client.isTruthy then client.item (.int 0) else .ok .null

/-- Between texts, the requested path is the full path. -/
theorem requestedPath_of_texts {scope : Table} {p r : String}
    (hp : (scope.get "path").orElse (.text "") = .text p)
    (hr : (scope.get "root_path").orElse (.text "") = .text r) :
    requestedPath scope = .ok (.text (fullPath r p)) := by
  simp only [requestedPath, hp, hr]
  by_cases hroot : r = ""
  · simp [Value.isTruthy, hroot, fullPath]
  · by_cases hsame : p = r
    · simp [hsame, Value.same, Value.sameScalar, fullPath, isUnderRoot]
    · simp [Value.isTruthy, hroot, Value.same, Value.sameScalar, hsame]

end AccessLog
