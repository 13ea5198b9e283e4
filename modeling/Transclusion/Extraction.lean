import Transclusion.BlockMap
import Transclusion.Definition

/-!
The definitions of a text and its blocks. Extraction passes over the text once:
markers inside a definition stay in its content, and markers without a partner
stay in the text. Stripping puts the content of each definition in its place.
-/

namespace Transclusion

structure Extraction where
  blocks : BlockMap
  text : Text

namespace Extraction

def cutting (grammar : Grammar) (text : Text) : Cutting Definition :=
  Cutting.ofText (Definition.recognise grammar) none text

def collect (grammar : Grammar) (definitions : List Definition) : BlockMap :=
  definitions.foldl
    (fun map definition =>
      map.add definition.name definition.content (grammar.isMulti definition.separator))
    { split := grammar.split }

/-- The definitions found, none when no start marker can occur. -/
def definitions (grammar : Grammar) (text : Text) : Cutting Definition :=
  if grammar.mayDefine text then cutting grammar text else { tail := text }

/-- The blocks of a text, and the text, with the content of each definition in the
definition's place when `remove` is set. -/
def extract (grammar : Grammar) (remove : Bool) (text : Text) : Extraction :=
  let found := definitions grammar text
  ⟨collect grammar found.marks, if remove then found.fill (·.content) else text⟩

def blockMap (grammar : Grammar) (text : Text) : BlockMap := (extract grammar false text).blocks

def strip (grammar : Grammar) (text : Text) : Extraction := extract grammar true text

end Extraction

end Transclusion
