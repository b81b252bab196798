import Registrar.Files

/-!
This module contains repositories, directories that hold the documents of every service in a
directory with the name of the service.
-/

namespace Registrar

def specificationResource : String := "avs.json"

inductive RepositoryError where
  | notFound (name : String) (resource : String)
  | io (path : String) (reason : String)
deriving Repr, DecidableEq

def RepositoryError.message : RepositoryError → String
  | .notFound name resource => "Resource " ++ resource ++ " of " ++ name ++ " not found"
  | .io path reason => "Failed to read " ++ path ++ ": " ++ reason

namespace Repository

/-- The path of a resource in the repository at `root`. -/
def path (root name resource : String) : String :=
  joinPath (joinPath root name) resource

/-- What a repository at `root` hands out if reading the path of a resource gives `content`. -/
def resource (root name resource : String) (content : Except FileFault String) :
    Except RepositoryError String :=
  match content with
  | .ok text => .ok text
  | .error .missing => .error (.notFound name resource)
  | .error fault => .error (.io (path root name resource) fault.message)

end Repository

end Registrar
