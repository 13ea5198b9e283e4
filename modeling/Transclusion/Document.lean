import Transclusion.Entries
import Transclusion.Text.Casefold
import Transclusion.Value.Written

/-!
Documents: named fields, each of them one text for every language or a text for
each of some languages. A document that is not published is listed only on request,
and one that is not viewable is never looked into for a reader.
-/

namespace Transclusion

inductive Content where
  | plain (text : Text)
  | perLanguage (texts : List (String × Text))
  deriving DecidableEq, Repr

structure Document where
  id : String
  fields : List (String × Content) := []
  published : Bool := true
  viewable : Bool := true
  defaultLanguage : String := "en"
  deriving DecidableEq, Repr

namespace Document

/-- The language asked for, or the document's own when none is named. -/
def languageOf (document : Document) (language : Option String) : String :=
  match language with
  | some code => if code.isEmpty then document.defaultLanguage else code
  | none => document.defaultLanguage

/-- A field that is absent, or has no text in the language, is empty. -/
def textOf (document : Document) (field : String) (language : Option String) : Text :=
  match document.fields.lookup field with
  | none => []
  | some (.plain text) => text
  | some (.perLanguage texts) => (texts.lookup (document.languageOf language)).getD []

/-- Writing a plain field in another language gives it texts by language; it keeps its
text under the document's own. -/
def setText (document : Document) (field : String) (text : Text) (language : Option String) :
    Document :=
  let code := document.languageOf language
  let content : Content :=
    match document.fields.lookup field with
    | some (.perLanguage texts) => .perLanguage (Entries.put code text texts)
    | present =>
        if code = document.defaultLanguage then .plain text
        else
          let base :=
            match present with
            | some (.plain base) => base
            | _ => []
          .perLanguage (Entries.put code text [(document.defaultLanguage, base)])
  { document with fields := Entries.put field content document.fields }

/-- Every text of a field, across languages. -/
def textsOf (document : Document) (field : String) : List Text :=
  match document.fields.lookup field with
  | none => []
  | some (.plain text) => [text]
  | some (.perLanguage texts) => texts.map (·.2)

/-- Whether a text of one of the fields holds `needle`, in any case. -/
def contains (document : Document) (fields : List String) (needle : Text) : Bool :=
  let folded := Text.fold needle
  fields.any fun field =>
    (document.textsOf field).any fun text => Text.occursIn folded (Text.fold text)

/-- The text that a value of a document file stands for. -/
def textOfValue : Value → Text
  | .null => []
  | value => value.plain.toList

def contentOfValue : Value → Content
  | .map entries =>
      .perLanguage (entries.foldl
        (fun texts entry => Entries.put entry.1.plain (textOfValue entry.2) texts) [])
  | value => .plain (textOfValue value)

def fieldsOfValue (entries : List (Value × Value)) : List (String × Content) :=
  entries.foldl
    (fun fields entry => Entries.put entry.1.plain (contentOfValue entry.2) fields) []

def flagAt (data : Value) (key : String) : Bool :=
  match data.get? key with
  | some value => value.isTruthy
  | none => true

/-- The document that a mapping describes; `none` when its fields are no mapping. -/
def ofValue? (id : String) (data : Value) : Option Document :=
  let fields? : Option (List (String × Content)) :=
    match data.get? "fields" with
    | some (.map entries) => some (fieldsOfValue entries)
    | some value => if value.isTruthy then none else some []
    | none => some []
  fields?.map fun fields =>
    { id, fields
      published := flagAt data "published"
      viewable := flagAt data "viewable"
      defaultLanguage :=
        match data.get? "default_language" with
        | some value => if value.isTruthy then value.plain else "en"
        | none => "en" }

/-- Whether all that is read of a mapping as text has one. -/
def isReadable (data : Value) : Bool :=
  ["fields", "default_language"].all fun key => (data.get? key).all Value.hasText

def valueOfText (text : Text) : Value := .text (String.ofList text)

def valueOfContent : Content → Value
  | .plain text => valueOfText text
  | .perLanguage texts => .map (texts.map fun entry => (.text entry.1, valueOfText entry.2))

def toValue (document : Document) : Value :=
  .map
    [(.text "published", .bool document.published), (.text "viewable", .bool document.viewable),
     (.text "default_language", .text document.defaultLanguage),
     (.text "fields",
       .map (document.fields.map fun entry => (.text entry.1, valueOfContent entry.2)))]

end Document

end Transclusion
