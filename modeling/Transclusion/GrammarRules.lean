import Transclusion.Grammar
import Transclusion.Text.Alphanumeric
import Transclusion.Text.Blank
import Transclusion.Value.Written

/-!
The grammar section of a configuration: what is wrong with it, and the grammar it
stands for. A value that is absent, empty or zero gives way to the standard one.
-/

namespace Transclusion.GrammarRules

def wordKeys : List String := ["start_word", "stop_word", "show_word"]

/-- A letter and then letters and digits, all ASCII; one final line feed is let
pass. -/
def isWordText : List Char → Bool
  | [] => false
  | c :: rest =>
      let tail := rest.dropWhile Char.isAlphanum
      c.isAlpha && (tail == [] || tail == ['\n'])

inductive Problem where
  | badWord (key : String)
  | repeatedWord (key word other : String)
  | badSplit
  deriving DecidableEq, Repr

def Problem.message : Problem → String
  | .badWord key =>
      "grammar." ++ key ++ ": must be a non-empty alphanumeric word starting with a letter"
  | .repeatedWord key word other =>
      "grammar." ++ key ++ ": '" ++ word ++ "' is already used by grammar." ++ other
  | .badSplit =>
      "grammar.split_char: must be a single character that is not a letter, digit, whitespace, " ++
        "'<' or '>'"

def isSplitChar (c : Char) : Bool :=
  !(Text.isAlphanumeric c || Text.isBlank c || c == '<' || c == '>')

def isSplitValue : Option Value → Bool
  | some (.text content) =>
      match content.toList with
      | [c] => isSplitChar c
      | _ => false
  | _ => false

/-- The words that are well formed, in order, and the problems of the others. -/
def checkWords (section_ : Value) : List String → List (String × String) × List Problem
  | [] => ([], [])
  | key :: rest =>
      let (words, problems) := checkWords section_ rest
      match section_.get? key with
      | some (.text content) =>
          if isWordText content.toList then ((key, content) :: words, problems)
          else (words, .badWord key :: problems)
      | _ => (words, .badWord key :: problems)

/-- Words that fold to one already seen; `seen` holds each first word folded. -/
def checkRepeats (seen : List (Text × String)) : List (String × String) → List Problem
  | [] => []
  | (key, word) :: rest =>
      let folded := Text.fold word.toList
      match seen.find? fun earlier => earlier.1 == folded with
      | some (_, other) => .repeatedWord key word other :: checkRepeats seen rest
      | none => checkRepeats (seen ++ [(folded, key)]) rest

def problems (section_ : Value) : List Problem :=
  let (words, bad) := checkWords section_ wordKeys
  bad ++ checkRepeats [] words ++
    (if isSplitValue (section_.get? "split_char") then [] else [.badSplit])

/-- The text under a key, or the standard one in place of an absent or empty value. -/
def setting (section_ : Value) (key : String) (standard : Text) : Text :=
  match section_.get? key with
  | some value => if value.isTruthy then value.plain.toList else standard
  | none => standard

def grammar (section_ : Value) : Grammar :=
  { startWord := setting section_ "start_word" Grammar.standard.startWord
    stopWord := setting section_ "stop_word" Grammar.standard.stopWord
    showWord := setting section_ "show_word" Grammar.standard.showWord
    split := setting section_ "split_char" Grammar.standard.split }

end Transclusion.GrammarRules
