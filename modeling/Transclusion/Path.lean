/-!
Paths as names of directories and a last name. Empty names and single dots do not
count; a path that begins with a slash is absolute, and two leading slashes are a
root of their own until the path is normalized.
-/

namespace Transclusion

structure Path where
  root : String := ""
  names : List String := []
  deriving DecidableEq, Repr

namespace Path

def isName (name : String) : Bool := name != "" && name != "."

def rootOf (text : List Char) : String :=
  match text.takeWhile (· == '/') with
  | [] => ""
  | ['/', '/'] => "//"
  | _ => "/"

def ofString (text : String) : Path :=
  { root := rootOf text.toList
    names := ((text.toList.splitOn '/').map String.ofList).filter isName }

def toString (path : Path) : String :=
  if path.root = "" && path.names.isEmpty then "."
  else path.root ++ String.intercalate "/" path.names

def isAbsolute (path : Path) : Bool := path.root != ""

/-- `other` seen from `path`. -/
def join (path other : Path) : Path :=
  if other.isAbsolute then other else { path with names := path.names ++ other.names }

def child (path : Path) (name : String) : Path := path.join (ofString name)

def parent (path : Path) : Path := { path with names := path.names.dropLast }

def name (path : Path) : String := path.names.getLast?.getD ""

/-- A name without its suffix: what stands before its last dot, unless that dot is
its first or last character. -/
def stemOf (name : String) : String :=
  let reversed := name.toList.reverse
  let suffix := reversed.takeWhile (· != '.')
  let before := (reversed.drop (suffix.length + 1)).reverse
  if suffix.isEmpty || before.isEmpty then name else String.ofList before

/-- The path from the one root on, with double dots taken back; at the root they
change nothing. -/
def normalized (path : Path) : Path :=
  { root := if path.isAbsolute then "/" else ""
    names := path.names.foldl
      (fun names name => if name = ".." then names.dropLast else names ++ [name]) [] }

def hasNull (name : String) : Bool := name.toList.contains '\x00'

/-- Whether the path can name something: no system takes a null character. -/
def isNameable (path : Path) : Bool := !path.names.any hasNull

/-- Homes of other users. -/
def knownHomes : List (String × String) := [("~root", "/root")]

def beginsWithTilde (name : String) : Bool := name.toList.head? == some '~'

/-- A home directory without slashes at its end, or the root. -/
def homeText (home : String) : String :=
  match (home.toList.reverse.dropWhile (· == '/')).reverse with
  | [] => "/"
  | text => String.ofList text

/-- The home directory that a name with a tilde stands for; a home that begins with
a tilde itself is none. -/
def homeOf? (home name : String) : Option String :=
  (if name = "~" then some (homeText home) else knownHomes.lookup name).filter
    fun text => !beginsWithTilde text

/-- Whether the path begins at some home directory. -/
def isFromHome (path : Path) : Bool :=
  !path.isAbsolute && (path.names.head?.map beginsWithTilde).getD false

/-- A path from a home directory, when its first name stands for one that is known. -/
def expandHome (home : String) (path : Path) : Option Path :=
  if path.isFromHome then
    (homeOf? home (path.names.head?.getD "")).map fun text =>
      let base := ofString text
      { base with names := base.names ++ path.names.drop 1 }
  else some path

end Path

end Transclusion
