import Transclusion.Json
import Transclusion.Template.Escape
import Transclusion.Text.Quoted
import Transclusion.Text.Utf8

/-!
Why a template cannot be read or rendered. A template that is read may still fail
while it is rendered: on a name without a value, on a template that is not there,
or on an operation that its values do not have.
-/

namespace Transclusion.Template

/-- Tags that would close what is open, and the innermost open tag. -/
structure Awaited where
  tags : List String := []
  outerTags : List String := []
  innermost : Option String := none
  deriving DecidableEq, Repr

inductive SourceFault where
  | openComment
  | badName
  | escape (fault : Escape.Fault)
  | unexpectedChar (c : Char) (position : Nat)
  | unexpectedClosing (sign : Char)
  | otherClosing (sign expected : Char)
  | unexpected (found : String)
  | expected (wanted found : String)
  | endBefore (wanted : String)
  | noExpression (found : String)
  | noTagName
  | noPart
  | tooManyDigits (count : Nat)
  | strangeDigit (digit : Char) (opensPower : Bool)
  | noCall
  | severalTests
  | badTarget (what : String)
  | unknownTag (name : String) (awaited : Awaited)
  | endInside (awaited : Awaited)
  deriving DecidableEq, Repr

def inQuotes (word : String) : String := String.ofList (Text.quoted word.toList)

namespace Awaited

def alternatives (awaited : Awaited) : String :=
  String.intercalate " or " (awaited.tags.map inQuotes)

def lookedFor (awaited : Awaited) : List String :=
  if awaited.tags.isEmpty then []
  else ["Jinja was looking for the following tags: " ++ awaited.alternatives ++ "."]

def misplaced (awaited : Awaited) : List String :=
  ["You probably made a nesting mistake. Jinja is expecting this tag, but currently looking for " ++
    awaited.alternatives ++ "."]

def unclosed (awaited : Awaited) : List String :=
  match awaited.innermost with
  | some tag => ["The innermost block that needs to be closed is " ++ inQuotes tag ++ "."]
  | none => []

end Awaited

namespace SourceFault

def message : SourceFault → String
  | .openComment => "Missing end of comment tag"
  | .badName => "Invalid character in identifier"
  | .escape fault => fault.message
  | .unexpectedChar c position =>
      "unexpected char " ++ String.ofList (Text.quoted [c]) ++ " at " ++ toString position
  | .unexpectedClosing sign => "unexpected '" ++ String.ofList [sign] ++ "'"
  | .otherClosing sign wanted =>
      "unexpected '" ++ String.ofList [sign] ++ "', expected '" ++ String.ofList [wanted] ++ "'"
  | .unexpected found => "unexpected " ++ inQuotes found
  | .expected wanted found =>
      "expected token " ++ inQuotes wanted ++ ", got " ++ inQuotes found
  | .endBefore wanted => "unexpected end of template, expected " ++ inQuotes wanted ++ "."
  | .noExpression found => "Expected an expression, got " ++ inQuotes found
  | .noTagName => "tag name expected"
  | .noPart => "expected name or number"
  | .tooManyDigits count => (Json.Fault.tooManyDigits count).message
  | .strangeDigit _ true => "invalid decimal literal (<unknown>, line 1)"
  | .strangeDigit digit false =>
      "invalid character '" ++ String.ofList [digit] ++ "' (U+" ++
        String.ofList ((Text.hexadecimal 4 digit.toNat).map Char.toUpper) ++
        ") (<unknown>, line 1)"
  | .noCall => "invalid syntax for function call expression"
  | .severalTests => "You cannot chain multiple tests with is"
  | .badTarget what => "can't assign to " ++ inQuotes what
  | .unknownTag name awaited =>
      String.intercalate " "
        (("Encountered unknown tag " ++ inQuotes name ++ ".") ::
          (if (awaited.tags ++ awaited.outerTags).contains name then awaited.misplaced
            else awaited.lookedFor) ++ awaited.unclosed)
  | .endInside awaited =>
      String.intercalate " "
        ("Unexpected end of template." :: awaited.lookedFor ++ awaited.unclosed)

end SourceFault

/-- What has no value. -/
inductive Missing where
  | name (name : String)
  | part (kind : String) (name : String)
  | item (kind : String) (index : String)
  | noted (note : String)
  deriving DecidableEq, Repr

namespace Missing

def message : Missing → String
  | .name word => inQuotes word ++ " is undefined"
  | .part kind word => inQuotes kind ++ " has no attribute " ++ inQuotes word
  | .item kind index => kind ++ " has no element " ++ index
  | .noted note => note

end Missing

/-- What a value can be passed through: a filter makes another value of it, a test
asks something about it. -/
inductive Helper where
  | filter
  | test
  deriving DecidableEq, Repr

def Helper.word : Helper → String
  | .filter => "filter"
  | .test => "test"

inductive Fault where
  | source (fault : SourceFault)
  | unknownHelper (kind : Helper) (name : String)
  | absentHelper (kind : Helper) (name : String)
  | loopTarget
  | missing (what : Missing)
  | notFound (name : Text) (folder : Option Text)
  | noneFound (names : List String)
  | zeroDivisor (message : String)
  | mismatch (message : String)
  | badValue (message : String)
  | tooLarge (message : String)
  | noText
  | tooDeep
  | octets (fault : Text.OctetFault)
  deriving DecidableEq, Repr

namespace Fault

def message : Fault → String
  | .source fault => fault.message
  | .unknownHelper kind name => "No " ++ kind.word ++ " named " ++ inQuotes name ++ "."
  | .absentHelper kind name => "No " ++ kind.word ++ " named " ++ inQuotes name ++ " found."
  | .loopTarget => "Can't assign to special loop variable in for-loop"
  | .missing what => what.message
  | .notFound name none => String.ofList name
  | .notFound name (some folder) =>
      String.ofList (Text.quoted name) ++ " not found in search path: " ++
        String.ofList (Text.quoted folder)
  | .noneFound [] => "Tried to select from an empty list of templates."
  | .noneFound names =>
      "none of the templates given were found: " ++ String.intercalate ", " names
  | .zeroDivisor message => message
  | .mismatch message => message
  | .badValue message => message
  | .tooLarge message => message
  | .noText => Value.noTextMessage
  | .tooDeep => "maximum recursion depth exceeded"
  | .octets fault => fault.message

/-- Faults of the template itself, as opposed to faults of the values it works on
and to numbers that no template can hold. -/
def isOfTemplate : Fault → Bool
  | .source (.tooManyDigits _) => false
  | .source (.strangeDigit _ _) => false
  | .source _ => true
  | .unknownHelper _ _ => true
  | .absentHelper _ _ => true
  | .loopTarget => true
  | .missing _ => true
  | .notFound _ _ => true
  | .noneFound _ => true
  | _ => false

end Fault

end Transclusion.Template
