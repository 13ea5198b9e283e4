import Transclusion.Fault

/-!
Where a program runs: its current folder, the home folder and the variables of its
environment. The root of a project is named by a variable, or else it is the nearest
folder above that holds the project's own folder.
-/

namespace Transclusion

structure Surroundings where
  folder : Path
  home : String
  environment : List (String × String) := []

namespace Surroundings

/-- The path with a leading tilde taken for a home folder. -/
def expandFrom (home : String) (path : Path) : Except Fault Path :=
  if path.isFromHome && Path.hasNull (path.names.head?.getD "") then
    .error (.yaml (.file .nullCharacter))
  else
    match path.expandHome home with
    | some path => .ok path
    | none => .error .noHome

def expand (surroundings : Surroundings) (path : Path) : Except Fault Path :=
  expandFrom surroundings.home path

/-- The path from the root on, without double dots. -/
def resolve (surroundings : Surroundings) (path : Path) : Except Fault Path :=
  if path.isNameable then .ok (surroundings.folder.join path).normalized
  else .error (.yaml (.file .nullCharacter))

def projectFolder : String := ".textblocks"

def rootVariable : String := "TEXTBLOCKS_PROJECT_ROOT"

/-- The path and every path above it, the longest first; `depth` bounds how many. -/
def ancestors : Nat → Path → List Path
  | 0, path => [path]
  | depth + 1, path => if path.names.isEmpty then [path] else path :: ancestors depth path.parent

/-- The first folder in which the project folder is. -/
def firstProject (files : FileTree) : List Path → Except FileFault (Option Path)
  | [] => .ok none
  | path :: rest => do
      if ← files.isFolder (path.child projectFolder) then return some path
      else firstProject files rest

/-- The project root seen from `start`, or from the current folder. -/
def projectRoot (surroundings : Surroundings) (files : FileTree) (start : Option Path) :
    Except Fault Path := do
  let named := (surroundings.environment.lookup rootVariable).getD ""
  if named != "" then
    surroundings.resolve (← surroundings.expand (Path.ofString named))
  else
    let place ← surroundings.resolve (start.getD surroundings.folder)
    match firstProject files (ancestors place.names.length place) with
    | .ok found => return found.getD place
    | .error fault => throw (.yaml (.file fault))

end Surroundings

end Transclusion
