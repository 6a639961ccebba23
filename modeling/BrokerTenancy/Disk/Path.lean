/-!
Paths. A path is text with slashes; what it means is a list of steps, from the root or from the
working directory. Empty parts and dots are no steps, but at the end of a path they ask for a
directory.
-/

namespace BrokerTenancy

/-- A step of a path: to what a directory holds under a name, or up to the directory above. -/
inductive PathStep where
  | into (name : String)
  | up
  deriving DecidableEq, Repr

/-- What a path ends with: its last step, a slash after it, or a dot after that. -/
inductive PathEnd where
  | step
  | slash
  | dot
  deriving DecidableEq, Repr

structure Path where
  absolute : Bool
  steps : List PathStep
  ending : PathEnd
  deriving DecidableEq, Repr

namespace Path

/-- Cuts a text at its slashes. -/
def splitAtSlashes : List Char → List (List Char)
  | [] => [[]]
  | character :: rest =>
      match splitAtSlashes rest with
      | [] => [[character]]
      | part :: parts =>
          if character = '/' then [] :: part :: parts else (character :: part) :: parts

/-- The step that a part is. -/
def stepOf (part : List Char) : Option PathStep :=
  if part = [] ∨ part = ['.'] then none
  else if part = ['.', '.'] then some .up
  else some (.into (String.ofList part))

/-- What the parts of a path, last one first, end with. -/
def endOf (reversed : List (List Char)) : PathEnd :=
  match reversed.dropWhile List.isEmpty with
  | ['.'] :: _ => .dot
  | _ => if reversed.head?.any List.isEmpty then .slash else .step

def ofText (text : String) : Path :=
  let parts := splitAtSlashes text.toList
  { absolute := text.toList.head? == some '/'
    steps := parts.filterMap stepOf
    ending := endOf parts.reverse }

/-- The path of a name in a directory; an absolute name is a path of its own. -/
def join (directory name : String) : String :=
  match directory.toList.getLast?, name.toList with
  | _, '/' :: _ => name
  | none, _ | some '/', _ => directory ++ name
  | _, _ => directory ++ "/" ++ name

/-- Drops slashes and dots that are no steps from the end of a path, given last character first. -/
def trimEnd : List Char → List Char
  | '/' :: rest => trimEnd rest
  | '.' :: '/' :: rest => trimEnd ('/' :: rest)
  | characters => characters

/-- The path of a sibling whose name is longer by some characters. A path that ends with no name has
none. -/
def lengthened (path more : String) : Option String :=
  let trimmed := trimEnd path.toList.reverse
  match stepOf (trimmed.takeWhile (· != '/')) with
  | some (.into _) => some (String.ofList trimmed.reverse ++ more)
  | _ => none

end Path

end BrokerTenancy
