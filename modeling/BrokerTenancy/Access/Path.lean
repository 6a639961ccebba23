/-!
Paths of the namespaced interface: `/api/namespaces/NAMESPACE/TYPE`, optionally with `/NAME` and
then `/SUBTYPE`. No segment is empty, and every segment has ASCII characters of its class only.
-/

namespace BrokerTenancy

def isNameCharacter (character : Char) : Bool :=
  character.isAlphanum || character == '_' || character == '.' || character == '-'

def isTypeCharacter (character : Char) : Bool :=
  character.isLower || character == '_' || character == '-'

def isSubtypeCharacter (character : Char) : Bool := character.isLower || character == '-'

/-- A segment that is not empty and has characters of a class only. -/
def isSegment (inClass : Char → Bool) (segment : List Char) : Bool :=
  !segment.isEmpty && segment.all inClass

/-- The parts of a text between slashes. -/
def segments : List Char → List (List Char)
  | [] => [[]]
  | character :: rest =>
      if character = '/' then [] :: segments rest
      else
        match segments rest with
        | [] => [[character]]
        | first :: others => (character :: first) :: others

structure RequestTarget where
  namespaceName : String
  /-- The type, with a slash and the subtype after it if there is one. -/
  resourceType : String
  deriving DecidableEq, Inhabited, Repr

namespace RequestTarget

/-- The first segments of every path. -/
def root : List (List Char) := [[], "api".toList, "namespaces".toList]

/-- The target of the segments after the first ones. -/
def ofSegments : List (List Char) → Option RequestTarget
  | [owner, type] =>
      if isSegment isNameCharacter owner && isSegment isTypeCharacter type then
        some { namespaceName := .ofList owner, resourceType := .ofList type }
      else none
  | [owner, type, name] =>
      if isSegment isNameCharacter owner && isSegment isTypeCharacter type &&
          isSegment isNameCharacter name then
        some { namespaceName := .ofList owner, resourceType := .ofList type }
      else none
  | [owner, type, name, subtype] =>
      if isSegment isNameCharacter owner && isSegment isTypeCharacter type &&
          isSegment isNameCharacter name && isSegment isSubtypeCharacter subtype then
        some {
          namespaceName := .ofList owner
          resourceType := .ofList (type ++ '/' :: subtype) }
      else none
  | _ => none

def ofPath (path : String) : Option RequestTarget :=
  let parts := segments path.toList
  if parts.take root.length = root then ofSegments (parts.drop root.length) else none

end RequestTarget

end BrokerTenancy
