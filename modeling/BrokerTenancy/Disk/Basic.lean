import BrokerTenancy.Disk.Path
import BrokerTenancy.Fault

/-!
Files and directories, and what paths lead to. A path is followed step by step: each step has to
start in a directory that is there, so a step up undoes the step before it only if that one led
somewhere.
-/

namespace BrokerTenancy

/-- Where something is, by the names on the way from the root. -/
abbrev Place := List String

/-- Files, and the directories other than the root. -/
structure Disk where
  files : List (Place × List UInt8) := []
  directories : List Place := []
  workingDirectory : Place := []

namespace Disk

abbrev Access (Value : Type) := Except SystemFault Value

/-- The longest name, in bytes. -/
def nameLimit : Nat := 255

/-- The longest path, in bytes. -/
def pathLimit : Nat := 4095

def isDirectory (disk : Disk) (place : Place) : Bool :=
  place.isEmpty || disk.directories.contains place

def isFile (disk : Disk) (place : Place) : Bool := (disk.files.lookup place).isSome

/-- Where paths of a kind start. -/
def origin (disk : Disk) (path : Path) : Place :=
  if path.absolute then [] else disk.workingDirectory

/-- Takes a text for a path. -/
def pathOf (text : String) : Access Path :=
  if text.toList.contains '\x00' then .error .zeroCharacter
  else if pathLimit < text.utf8ByteSize then .error .nameTooLong
  else .ok (Path.ofText text)

/-- The place that a step leads to, whatever is there. -/
def placeOf (place : Place) : PathStep → Access Place
  | .up => .ok place.dropLast
  | .into name =>
    if nameLimit < name.utf8ByteSize then .error .nameTooLong else .ok (place ++ [name])

/-- Takes a step to a directory. -/
def enter (disk : Disk) (place : Place) (step : PathStep) : Access Place := do
  let next ← placeOf place step
  if disk.isDirectory next then return next
  else if disk.isFile next then throw .notDirectory
  else throw .fileMissing

/-- Takes steps to a directory. -/
def walk (disk : Disk) (place : Place) (steps : List PathStep) : Access Place :=
  steps.foldlM disk.enter place

/-- The place at the end of some steps, given last one first, whatever is there. The steps before
the last one lead to a directory. -/
def locate (disk : Disk) (place : Place) : List PathStep → Access Place
  | [] => .ok place
  | last :: above => do placeOf (← disk.walk place above.reverse) last

/-- Makes the directory at the end of some steps, given last one first, unless it is there. -/
def makeLast (disk : Disk) (place : Place) (ending : PathEnd) (reversed : List PathStep) :
    Access Disk :=
  match ending with
  | .dot => do
      let _ ← disk.walk place reversed.reverse
      return disk
  | _ => do
      let made ← disk.locate place reversed
      if disk.isDirectory made then return disk
      else if disk.isFile made then throw .alreadyThere
      else return { disk with directories := made :: disk.directories }

/-- Makes a directory at the end of some steps, given last one first, after those above it if they
are missing. -/
def makeAll (disk : Disk) (place : Place) (ending : PathEnd) : List PathStep → Access Disk
  | [] => .ok disk
  | last :: above =>
      match disk.makeLast place ending (last :: above) with
      | .error .fileMissing => do
          let disk ← disk.makeAll place .step above
          disk.makeLast place ending (last :: above)
      | made => made

def makeDirectory (disk : Disk) (text : String) : Access Disk := do
  let path ← pathOf text
  disk.makeAll (disk.origin path) path.ending path.steps.reverse

/-- The place of a file, which is there or can be made. -/
def filePlace (disk : Disk) (text : String) : Access Place := do
  let path ← pathOf text
  let place ← disk.locate (disk.origin path) path.steps.reverse
  if disk.isDirectory place then throw .isDirectory
  else if path.ending = .step then return place
  else if disk.isFile place then throw .notDirectory
  else throw .fileMissing

def read (disk : Disk) (text : String) : Access (List UInt8) := do
  match disk.files.lookup (← disk.filePlace text) with
  | some bytes => return bytes
  | none => throw .fileMissing

/-- Sets the bytes of a file, in a directory that has to be there. -/
def write (disk : Disk) (text : String) (bytes : List UInt8) : Access Disk := do
  let place ← disk.filePlace text
  return { disk with files := (place, bytes) :: disk.files.filter fun file => file.1 != place }

/-- Makes a directory and then a file in it, as far as that can be. -/
def holding (disk : Disk) (directory name : String) (bytes : List UInt8) : Disk :=
  let written := do
    let made ← disk.makeDirectory directory
    made.write (Path.join directory name) bytes
  written.toOption.getD disk

/-- The names of what a directory holds, in order. -/
def names (disk : Disk) (text : String) : List String :=
  let path := Path.ofText text
  match disk.walk (disk.origin path) path.steps with
  | .error _ => []
  | .ok directory =>
      let places := disk.files.map (·.1) ++ disk.directories
      let below := places.filterMap fun place =>
        if directory.isPrefixOf place then (place.drop directory.length).head? else none
      below.eraseDups.mergeSort fun left right => left ≤ right

end Disk

end BrokerTenancy
