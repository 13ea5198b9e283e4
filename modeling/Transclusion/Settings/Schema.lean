import Transclusion.Fault
import Transclusion.GrammarRules

/-!
What settings must look like: for each section, the properties it may have and the
rules that their values keep. Problems come in order of where they are, those of one
value in order of its rules. A rule about text lets values of other kinds pass.
-/

namespace Transclusion.Settings

inductive Kind where
  | object
  | array
  | string
  | null
  deriving DecidableEq, Repr

namespace Kind

def name : Kind → String
  | .object => "object"
  | .array => "array"
  | .string => "string"
  | .null => "null"

def holds : Kind → Value → Bool
  | .object, .map _ => true
  | .array, .list _ => true
  | .string, .text _ => true
  | .null, .null => true
  | _, _ => false

end Kind

inductive Rule where
  | kinds (kinds : List Kind)
  | notEmpty
  | oneCharacter
  | form (shown : String) (test : List Char → Bool)
  | oneOf (choices : List String)

structure Property where
  name : String
  rules : List Rule
  itemRules : List Rule := []

structure Section where
  name : String
  properties : List Property

/-- What is wrong at a place, and the values that its message shows. -/
structure Problem where
  message : String
  shows : List Value

def quotedText (text : String) : String := String.ofList (Text.quoted text.toList)

namespace Rule

/-- What a value says against a rule, after the value. -/
def complaint? (rule : Rule) (value : Value) : Option String :=
  match rule, value with
  | .kinds allowed, value =>
      if allowed.any (·.holds value) then none
      else
        some ("is not of type " ++
          String.intercalate ", " (allowed.map fun kind => quotedText kind.name))
  | .notEmpty, .text content =>
      if content.isEmpty then some "should be non-empty" else none
  | .oneCharacter, .text content =>
      if content.length ≤ 1 then none else some "is too long"
  | .form shown test, .text content =>
      if test content.toList then none else some ("does not match " ++ quotedText shown)
  | .oneOf choices, value =>
      if choices.any fun choice => Value.sameKey value (.text choice) then none
      else some ("is not one of " ++ Value.shown (.list (choices.map .text)))
  | _, _ => none

def problems (rules : List Rule) (place : String) (value : Value) : List Problem :=
  (rules.filterMap (·.complaint? value)).map fun complaint =>
    ⟨place ++ ": " ++ value.shown ++ " " ++ complaint, [value]⟩

end Rule

namespace Property

def itemProblems (property : Property) (place : String) (value : Value) : List Problem :=
  match value with
  | .list items =>
      items.zipIdx.flatMap fun (item, index) =>
        Rule.problems property.itemRules (place ++ "." ++ toString index) item
  | _ => []

def problems (property : Property) (sectionName : String) (value : Value) : List Problem :=
  let place := sectionName ++ "." ++ property.name
  Rule.problems property.rules place value ++ property.itemProblems place value

end Property

namespace Section

def isKnown (described : Section) (key : Value) : Bool :=
  described.properties.any fun property => Value.sameKey key (.text property.name)

/-- Keys that the section may not have, in order of their texts. -/
def strangeKeys (described : Section) (entries : List (Value × Value)) : List Value :=
  ((entries.map (·.1)).filter fun key => !described.isKnown key).mergeSort
    fun first second => decide (first.plain ≤ second.plain)

def strangeProblems (described : Section) (entries : List (Value × Value)) : List Problem :=
  match described.strangeKeys entries with
  | [] => []
  | keys =>
      [⟨described.name ++ ": Additional properties are not allowed (" ++
        String.intercalate ", " (keys.map Value.shown) ++
        (if keys.length = 1 then " was" else " were") ++ " unexpected)", keys⟩]

def problems (described : Section) (value : Value) : List Problem :=
  Rule.problems [.kinds [.object]] described.name value ++
    match value with
    | .map entries =>
        described.strangeProblems entries ++
          described.properties.flatMap fun property =>
            match value.get? property.name with
            | some item => property.problems described.name item
            | none => []
    | _ => []

end Section

/-- One final line feed is let pass. -/
def isFieldName (text : List Char) : Bool :=
  let rest := text.dropWhile isPlainNameChar
  rest.length < text.length && (rest == [] || rest == ['\n'])

def isSeparator : List Char → Bool
  | c :: rest =>
      !(c.isAlphanum || Text.isBlank c || c == '<' || c == '>') && (rest == [] || rest == ['\n'])
  | [] => false

def namesBlock (text : List Char) : Bool :=
  Text.occursIn ['\x7b', 'n', 'a', 'm', 'e', '\x7d'] text

def wordRules : List Rule :=
  [.kinds [.string], .notEmpty, .form "^[A-Za-z][A-Za-z0-9]*$" GrammarRules.isWordText]

def textRules : List Rule := [.kinds [.string], .notEmpty]

def optionalRules : List Rule := [.kinds [.string, .null]]

def levelNames : List String := ["DEBUG", "INFO", "WARNING", "ERROR", "CRITICAL"]

/-- The sections and their properties, in order of their names. -/
def sections : List Section :=
  [⟨"grammar",
    [⟨"show_word", wordRules, []⟩,
     ⟨"split_char",
      [.kinds [.string], .notEmpty, .oneCharacter, .form "^[^A-Za-z0-9\\s<>]$" isSeparator], []⟩,
     ⟨"start_word", wordRules, []⟩, ⟨"stop_word", wordRules, []⟩]⟩,
   ⟨"language", [⟨"current", optionalRules, []⟩, ⟨"default", textRules, []⟩]⟩,
   ⟨"logging", [⟨"level", [.kinds [.string], .oneOf levelNames], []⟩, ⟨"path", optionalRules, []⟩]⟩,
   ⟨"storage",
    [⟨"capability", textRules, []⟩,
     ⟨"fields", [.kinds [.array]], [.kinds [.string], .form "^[A-Za-z0-9_]+$" isFieldName]⟩,
     ⟨"path", textRules, []⟩]⟩,
   ⟨"templates",
    [⟨"name_pattern", [.kinds [.string], .form "\\\x7bname\\\x7d" namesBlock], []⟩,
     ⟨"override_dir", optionalRules, []⟩]⟩]

def schemaProblems (data : Value) : List Problem :=
  Rule.problems [.kinds [.object]] "<root>" data ++
    sections.flatMap fun described =>
      match data.get? described.name with
      | some value => described.problems value
      | none => []

/-- What is wrong with settings. The rules of the grammar are looked at when all
else is right. A problem that shows a value without text cannot be told. -/
def problems (data : Value) : Except Fault (List String) :=
  match schemaProblems data with
  | [] => .ok ((GrammarRules.problems ((data.get? "grammar").getD .null)).map (·.message))
  | found =>
      if found.all fun problem => problem.shows.all Value.hasText then
        .ok (found.map (·.message))
      else .error .noText

end Transclusion.Settings
