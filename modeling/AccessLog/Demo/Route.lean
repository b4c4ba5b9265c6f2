/-!
# Routes of the demo service

The demo service answers at three paths. A path that differs from one of them
only by slashes at its end is redirected to it.
-/

namespace AccessLog.Demo

inductive Endpoint where
  /-- Says that the service is well. -/
  | health
  /-- Has no icon. -/
  | icon
  /-- Answers with a random number. -/
  | index
  deriving Repr, DecidableEq

namespace Endpoint

def all : List Endpoint := [health, icon, index]

def path : Endpoint → String
  | health => "/healthz"
  | icon => "/favicon.ico"
  | index => "/"

def methods : Endpoint → List String
  | health => ["GET"]
  | icon => ["GET"]
  | index => ["GET", "POST"]

/-- The endpoint at a path; a line feed at the end of the path is ignored. -/
def at? (path : String) : Option Endpoint :=
  all.find? fun e => path == e.path || path == e.path ++ "\n"

end Endpoint

/-- The path below the root path, when the root path ends at a slash of it. -/
def pathBelow (root path : String) : String :=
  if root = "" ∨ !root.toList.isPrefixOf path.toList then path
  else
    match path.toList.drop root.length with
    | [] => ""
    | '/' :: rest => String.ofList ('/' :: rest)
    | _ => path

/-- The path without the slashes at its end, or with one if it has none. -/
def otherSlash (path : String) (hasSlash : Bool) : String :=
  if hasSlash then String.ofList ((path.toList.reverse.dropWhile (· == '/')).reverse)
  else path ++ "/"

inductive Destination where
  | endpoint (e : Endpoint)
  | wrongMethod (allowed : List String)
  | redirect (path : String)
  | nowhere
  deriving Repr, DecidableEq

def route (root path method : String) : Destination :=
  let below := pathBelow root path
  match Endpoint.at? below with
  | some e => if e.methods.contains method then .endpoint e else .wrongMethod e.methods
  | none =>
    let other := otherSlash path (below.toList.getLast? == some '/')
    if below != "/" && (Endpoint.at? (pathBelow root other)).isSome then .redirect other
    else .nowhere

end AccessLog.Demo
