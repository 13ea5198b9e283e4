import Transclusion.Template.Layout

/-!
What a field of a name pattern can stand for, and the parts of it: the block name and
its characters, the operations of texts, and the species that these belong to with
their descriptions.
-/

namespace Transclusion.Template.NamePattern

inductive Species where
  | text
  | object
  | species
  | several
  | operation
  | wrapper
  | operationOf
  | wrapperOf
  | nothing
  deriving DecidableEq, Repr

namespace Species

def name : Species → String
  | .text => "str"
  | .object => "object"
  | .species => "type"
  | .several => "tuple"
  | .operation => "builtin_function_or_method"
  | .wrapper => "method-wrapper"
  | .operationOf => "method_descriptor"
  | .wrapperOf => "wrapper_descriptor"
  | .nothing => "NoneType"

/-- The species that one is made from; everything is made from objects. -/
def base? : Species → Option Species
  | .object => none
  | _ => some .object

def lineage (which : Species) : List Species := which :: which.base?.toList

def shown (which : Species) : String := "<class '" ++ which.name ++ "'>"

def description? : Species → Option String
  | .text => some
      ("str(object='') -> str\nstr(bytes_or_buffer[, encoding[, errors]]) -> str\n\n" ++
       "Create a new string object from the given object. If encoding or\n" ++
       "errors is specified, then the object must expose a data buffer\n" ++
       "that will be decoded using the given encoding and error handler.\n" ++
       "Otherwise, returns the result of object.__str__() (if defined)\n" ++
       "or repr(object).\n" ++
       "encoding defaults to sys.getdefaultencoding().\nerrors defaults to 'strict'.")
  | _ => none

/-- Operations that a species brings itself. -/
def ownOperations : Species → List String
  | .text =>
      ["__format__", "__getnewargs__", "__sizeof__", "capitalize", "casefold", "center", "count",
       "encode", "endswith", "expandtabs", "find", "format", "format_map", "index", "isalnum",
       "isalpha", "isascii", "isdecimal", "isdigit", "isidentifier", "islower", "isnumeric",
       "isprintable", "isspace", "istitle", "isupper", "join", "ljust", "lower", "lstrip",
       "partition", "removeprefix", "removesuffix", "replace", "rfind", "rindex", "rjust",
       "rpartition", "rsplit", "rstrip", "split", "splitlines", "startswith", "strip", "swapcase",
       "title", "translate", "upper", "zfill"]
  | .object => ["__dir__", "__getstate__", "__reduce__", "__reduce_ex__"]
  | _ => []

/-- Operations behind the signs of expressions. -/
def ownWrappers : Species → List String
  | .text =>
      ["__add__", "__contains__", "__eq__", "__ge__", "__getattribute__", "__getitem__", "__gt__",
       "__hash__", "__iter__", "__le__", "__len__", "__lt__", "__mod__", "__mul__", "__ne__",
       "__repr__", "__rmod__", "__rmul__", "__str__"]
  | .object => ["__delattr__", "__init__", "__setattr__"]
  | _ => []

end Species

/-- A block name or a piece of one, an operation of it, a species, several species, or
an operation as its species describes it. -/
inductive Thing where
  | word (letters : Text)
  | operation (owner : Text) (name : String)
  | wrapper (owner : Text) (name : String)
  | species (which : Species)
  | several (members : List Species)
  | operationOf (owner : Species) (name : String)
  | wrapperOf (owner : Species) (name : String)
  | nothing
  deriving DecidableEq, Repr

/-- Texts of one ASCII character are kept in a table, 56 octets a character. -/
def placeOf (owner : Text) : Nat :=
  match owner with
  | [c] => 0xa65948 + 56 * c.toNat
  | _ => 0xa65948

namespace Thing

def ofString (text : String) : Thing := .word text.toList

def speciesOf : Thing → Species
  | .word _ => .text
  | .operation _ _ => .operation
  | .wrapper _ _ => .wrapper
  | .species _ => .species
  | .several _ => .several
  | .operationOf _ _ => .operationOf
  | .wrapperOf _ _ => .wrapperOf
  | .nothing => .nothing

def kind (thing : Thing) : String := thing.speciesOf.name

def placed (what owner : String) (place : Nat) : Text :=
  ("<" ++ what ++ " of " ++ owner ++ " object at 0x").toList ++ Nat.toDigits 16 place ++ ['>']

def shownMembers : List Species → String
  | [] => "()"
  | [only] => "(" ++ only.shown ++ ",)"
  | members => "(" ++ String.intercalate ", " (members.map Species.shown) ++ ")"

def shown : Thing → Text
  | .word letters => Text.quoted letters
  | .operation owner name => placed ("built-in method " ++ name) "str" (placeOf owner)
  | .wrapper owner name => placed ("method-wrapper '" ++ name ++ "'") "str" (placeOf owner)
  | .species which => which.shown.toList
  | .several members => (shownMembers members).toList
  | .operationOf owner name => ("<method '" ++ name ++ "' of '" ++ owner.name ++ "' objects>").toList
  | .wrapperOf owner name =>
      ("<slot wrapper '" ++ name ++ "' of '" ++ owner.name ++ "' objects>").toList
  | .nothing => "None".toList

def plain : Thing → Text
  | .word letters => letters
  | other => other.shown

/-- How messages about a missing part call the thing. -/
def described : Thing → String
  | .species which => "type object '" ++ which.name ++ "'"
  | other => "'" ++ other.kind ++ "' object"

/-- How messages about a missing item call the thing. -/
def container : Thing → String
  | .species which => "type '" ++ which.name ++ "'"
  | other => other.described

def wordPart? (owner : Text) (name : String) : Option Thing :=
  let lineage := Species.lineage .text
  if lineage.any (·.ownOperations.contains name) || name == "maketrans" then
    some (.operation owner name)
  else if lineage.any (·.ownWrappers.contains name) then some (.wrapper owner name)
  else if name = "__doc__" then Species.text.description?.map ofString
  else none

/-- Names of an operation, and what it belongs to. -/
def operationPart? (self : Thing) (owner : Species) (operation name : String) : Option Thing :=
  if name = "__name__" then some (ofString operation)
  else if name = "__qualname__" then some (ofString (owner.name ++ "." ++ operation))
  else
    match self with
    | .operation letters _ =>
        if name = "__self__" then some (.word letters)
        else if name = "__module__" then some .nothing
        else none
    | .wrapper letters _ =>
        if name = "__self__" then some (.word letters)
        else if name = "__objclass__" then some (.species owner)
        else none
    | _ => if name = "__objclass__" then some (.species owner) else none

/-- The species in the lineage of texts that brings an operation. -/
def bringer (name : String) : Species :=
  ((Species.lineage .text).find? fun which =>
    which.ownOperations.contains name || which.ownWrappers.contains name).getD .text

def speciesPart? (which : Species) (name : String) : Option Thing :=
  match name with
  | "__name__" => some (ofString which.name)
  | "__qualname__" => some (ofString which.name)
  | "__module__" => some (ofString "builtins")
  | "__base__" => some ((which.base?.map Thing.species).getD .nothing)
  | "__bases__" => some (.several which.base?.toList)
  | "__mro__" => some (.several which.lineage)
  | "__doc__" => which.description?.map ofString
  | _ =>
      match which.lineage.find? (·.ownOperations.contains name) with
      | some owner => some (.operationOf owner name)
      | none =>
          (which.lineage.find? (·.ownWrappers.contains name)).map fun owner =>
            .wrapperOf owner name

def part? (thing : Thing) (name : String) : Option Thing :=
  if name = "__class__" then some (.species thing.speciesOf)
  else
    match thing with
    | .word letters => wordPart? letters name
    | .operation _ own => operationPart? thing (bringer own) own name
    | .wrapper _ own => operationPart? thing (bringer own) own name
    | .species which => speciesPart? which name
    | .operationOf owner own => operationPart? thing owner own name
    | .wrapperOf owner own => operationPart? thing owner own name
    | .several _ => none
    | .nothing => none

end Thing

end Transclusion.Template.NamePattern
