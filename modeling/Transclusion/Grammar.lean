import Transclusion.Text.Casefold

/-!
The four words and signs that markers are made of, the literal markers they
give, and the cheap tests that a text may hold a marker at all. A separator
written twice marks a name that may have many definitions.
-/

namespace Transclusion

structure Grammar where
  startWord : Text := ['s', 't', 'a', 'r', 't']
  stopWord : Text := ['s', 't', 'o', 'p']
  showWord : Text := ['s', 'h', 'o', 'w']
  split : Text := ['_']
  deriving DecidableEq, Repr

namespace Grammar

def standard : Grammar := {}

def separator (grammar : Grammar) (multi : Bool) : Text :=
  if multi then grammar.split ++ grammar.split else grammar.split

/-- The separator is compared as written, so a case form of it is not double. -/
def isMulti (grammar : Grammar) (separator : Text) : Bool :=
  separator == grammar.separator true

def startTag (grammar : Grammar) (name : Text) (multi : Bool) : Text :=
  grammar.startWord ++ grammar.separator multi ++ name

def stopTag (grammar : Grammar) (name : Text) (multi : Bool) : Text :=
  grammar.stopWord ++ grammar.separator multi ++ name

def showTag (grammar : Grammar) (name : Text) (multi : Bool) : Text :=
  grammar.showWord ++ grammar.separator multi ++ name

def mayDefine (grammar : Grammar) (text : Text) : Bool :=
  !text.isEmpty && Text.foldOccursIn (grammar.startWord ++ grammar.split) text

def mayShow (grammar : Grammar) (text : Text) : Bool :=
  !text.isEmpty && Text.foldOccursIn (grammar.showWord ++ grammar.split) text

end Grammar

/-- What a requested block name keeps: ASCII letters, digits and underscores. -/
def isPlainNameChar (c : Char) : Bool := c.isAlphanum || c == '_'

def sanitize (name : Text) : Text := name.filter isPlainNameChar

end Transclusion
