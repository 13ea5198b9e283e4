import Transclusion.Yaml.ScalarText

/-!
The tokens of a YAML text, one at a time. Indentation opens and closes blocks. A
token that may turn out to be a key is remembered until a colon follows on its
line, so a token is given out only when no such decision about it is open.
-/

namespace Transclusion.Yaml

inductive Token where
  | version (major : Nat)
  | tagPrefix (handle uri : Text)
  | reserved
  | documentStart
  | documentEnd
  | streamEnd
  | flowSequenceStart
  | flowSequenceEnd
  | flowMappingStart
  | flowMappingEnd
  | blockSequenceStart
  | blockMappingStart
  | blockEnd
  | flowEntry
  | blockEntry
  | key
  | value
  | alias (name : Text)
  | anchor (name : Text)
  | tag (handle : Option Text) (uri : Text)
  | scalar (content : Text) (plain : Bool)
  deriving DecidableEq

/-- A token that may be a key: its number, where it stands, and whether a colon
must follow. -/
structure KeyCandidate where
  level : Nat
  number : Nat
  required : Bool
  index : Nat
  line : Nat
  column : Nat

structure TokenSource where
  place : Place
  queue : List Token := []
  taken : Nat := 0
  done : Bool := false
  level : Nat := 0
  indent : Int := -1
  outer : List Int := []
  keyAllowed : Bool := true
  candidates : List KeyCandidate := []

namespace TokenSource

abbrev Step := TokenSource → Except Fault TokenSource

def push (token : Token) (source : TokenSource) : TokenSource :=
  { source with queue := source.queue ++ [token] }

def inFlow (source : TokenSource) : Bool := source.level != 0

/-- Candidates from another line, or too far back, are given up. -/
def dropStale (source : TokenSource) : Except Fault TokenSource :=
  let isStale (candidate : KeyCandidate) : Bool :=
    candidate.line != source.place.line || 1024 < source.place.index - candidate.index
  if source.candidates.any fun candidate => isStale candidate && candidate.required then
    .error .token
  else .ok { source with candidates := source.candidates.filter fun c => !isStale c }

def candidate? (source : TokenSource) : Option KeyCandidate :=
  source.candidates.find? fun candidate => candidate.level == source.level

def withoutCandidate (source : TokenSource) : TokenSource :=
  { source with candidates := source.candidates.filter fun c => c.level != source.level }

/-- The candidate on this level is no key after all. -/
def dropCandidate (source : TokenSource) : Except Fault TokenSource :=
  match source.candidate? with
  | some candidate => if candidate.required then .error .token else .ok source.withoutCandidate
  | none => .ok source

/-- The next token may be a key. -/
def saveCandidate (source : TokenSource) : Except Fault TokenSource :=
  if source.keyAllowed then do
    let required := !source.inFlow && source.indent == Int.ofNat source.place.column
    let source ← source.dropCandidate
    let candidate : KeyCandidate :=
      { level := source.level, number := source.taken + source.queue.length, required
        index := source.place.index, line := source.place.line, column := source.place.column }
    return { source with candidates := source.candidates ++ [candidate] }
  else .ok source

/-- Blocks indented deeper than `column` end. -/
def closeBlocks (column : Int) : List Int → TokenSource → TokenSource
  | [], source => source
  | indent :: outer, source =>
      if source.indent > column then
        closeBlocks column outer { source.push .blockEnd with indent, outer }
      else source

def unwind (column : Int) (source : TokenSource) : TokenSource :=
  if source.inFlow then source else closeBlocks column source.outer source

/-- Enters a deeper block; the flag tells whether there is one. -/
def deepen (column : Nat) (source : TokenSource) : Bool × TokenSource :=
  if source.indent < Int.ofNat column then
    (true, { source with indent := Int.ofNat column, outer := source.indent :: source.outer })
  else (false, source)

def advance (count : Nat) (source : TokenSource) : TokenSource :=
  { source with place := source.place.forward count }

/-- Skips spaces, comments and line ends. -/
def skipBlank : Nat → TokenSource → TokenSource
  | 0, source => source
  | fuel + 1, source =>
      let place := source.place.skipSpaces
      let place := if place.sees '#' then place.skipLine else place
      if (place.peek.map isBreak).getD false then
        skipBlank fuel
          { source with place := place.lineBreak.2, keyAllowed := source.keyAllowed || !source.inFlow }
      else { source with place }

def streamEnd : Step := fun source => do
  let source ← (source.unwind (-1)).dropCandidate
  return { source.push .streamEnd with keyAllowed := false, candidates := [], done := true }

def documentMarker (token : Token) : Step := fun source => do
  let source ← (source.unwind (-1)).dropCandidate
  return { (source.advance 3).push token with keyAllowed := false }

def isHandleChar (c : Char) : Bool := c.isAlphanum || c == '-' || c == '_'

def readNatural (place : Place) : Except Fault (Nat × Place) :=
  let digits := place.ahead Char.isDigit
  if digits.isEmpty then .error place.refusal
  else .ok (Json.naturalOf digits, place.forward digits.length)

def endsWord (place : Place) : Bool := isBreakOrEnd place.peek || place.sees ' '

/-- A tag handle: one exclamation mark, or a name between two. -/
def readHandle (place : Place) : Except Fault (Text × Place) :=
  if place.sees '!' then
    let after := place.next
    if after.sees ' ' then .ok (['!'], after)
    else
      let name := after.ahead isHandleChar
      let after := after.forward name.length
      if after.sees '!' then .ok ('!' :: name ++ ['!'], after.next) else .error after.refusal
  else .error place.refusal

def isUriChar (c : Char) : Bool :=
  c.isAlphanum || "-;/?:@&=+$,_.!~*'()[]%".toList.contains c

/-- Bytes of percent escapes at the head of a text. -/
def readOctets : Nat → Text → Except Fault (List UInt8 × Text)
  | 0, _ => .error .token
  | fuel + 1, text =>
      match text with
      | '%' :: high :: low :: rest =>
          match Json.hexValue? high, Json.hexValue? low with
          | some high, some low => do
              let (more, rest) ← readOctets fuel rest
              return (UInt8.ofNat (16 * high + low) :: more, rest)
          | _, _ => .error .token
      | '%' :: _ => .error .token
      | text => .ok ([], text)

def readUri : Nat → Place → Except Fault (Text × Place)
  | 0, _ => .error .token
  | fuel + 1, place =>
      let run := place.ahead fun c => isUriChar c && c != '%'
      let after := place.forward run.length
      if after.sees '%' then do
        let (octets, rest) ← readOctets (after.rest.length + 1) after.rest
        match String.fromUTF8? (ByteArray.mk octets.toArray) with
        | some decoded =>
            let (more, place) ← readUri fuel (after.forward (after.rest.length - rest.length))
            return (run ++ decoded.toList ++ more, place)
        | none => .error .token
      else .ok (run, after)

def readSomeUri (place : Place) : Except Fault (Text × Place) := do
  let (uri, place) ← readUri (place.rest.length + 1) place
  if uri.isEmpty then .error place.refusal else return (uri, place)

def readDirective (place : Place) : Except Fault (Token × Place) := do
  let name := place.ahead isHandleChar
  let place := place.forward name.length
  if name.isEmpty || !endsWord place then .error place.refusal
  else if name == "YAML".toList then
    let (major, place) ← readNatural place.skipSpaces
    if place.sees '.' then
      let (_, place) ← readNatural place.next
      if endsWord place then return (.version major, place) else .error .token
    else .error place.refusal
  else if name == "TAG".toList then
    let (handle, place) ← readHandle place.skipSpaces
    if place.sees ' ' then
      let (uri, place) ← readSomeUri place.skipSpaces
      if endsWord place then return (.tagPrefix handle uri, place) else .error .token
    else .error place.refusal
  else return (.reserved, place.skipLine)

def directive : Step := fun source => do
  let source ← (source.unwind (-1)).dropCandidate
  let (token, place) ← readDirective source.place.next
  let place ← ScalarText.restOfLine place
  return { source.push token with place, keyAllowed := false }

def flowStart (token : Token) : Step := fun source => do
  let source ← source.saveCandidate
  return { (source.advance 1).push token with level := source.level + 1, keyAllowed := true }

def flowEnd (token : Token) : Step := fun source => do
  let source ← source.dropCandidate
  return { (source.advance 1).push token with level := source.level - 1, keyAllowed := false }

def flowEntry : Step := fun source => do
  let source ← { source with keyAllowed := true }.dropCandidate
  return (source.advance 1).push .flowEntry

/-- An entry mark that opens a block where one may begin. -/
def openBlock (token : Token) (source : TokenSource) : Except Fault TokenSource :=
  if source.inFlow then .ok source
  else if source.keyAllowed then
    let (opened, source) := source.deepen source.place.column
    .ok (if opened then source.push token else source)
  else .error .token

def blockEntry : Step := fun source => do
  let source ← source.openBlock .blockSequenceStart
  let source ← { source with keyAllowed := true }.dropCandidate
  return (source.advance 1).push .blockEntry

def explicitKey : Step := fun source => do
  let source ← source.openBlock .blockMappingStart
  let source ← { source with keyAllowed := !source.inFlow }.dropCandidate
  return (source.advance 1).push .key

def insertAt (position : Nat) (tokens : List Token) (source : TokenSource) : TokenSource :=
  { source with queue := source.queue.take position ++ tokens ++ source.queue.drop position }

/-- A colon: the candidate on this level is a key, and may open a mapping. -/
def value : Step := fun source =>
  match source.candidate? with
  | some candidate =>
      let position := candidate.number - source.taken
      let source := source.withoutCandidate
      let (opened, source) :=
        if source.inFlow then (false, source) else source.deepen candidate.column
      let tokens := if opened then [Token.blockMappingStart, .key] else [.key]
      .ok (({ source.insertAt position tokens with keyAllowed := false }.advance 1).push .value)
  | none => do
      let source ← source.openBlock .blockMappingStart
      let source ← { source with keyAllowed := !source.inFlow }.dropCandidate
      return (source.advance 1).push .value

def endsAnchor (c : Option Char) : Bool :=
  isSpaceOrEnd c ||
    match c with
    | some c => "?:,]\x7d%@`".toList.contains c
    | none => true

def readAnchor (place : Place) : Except Fault (Text × Place) :=
  let name := place.ahead isHandleChar
  let after := place.forward name.length
  if name.isEmpty || !endsAnchor after.peek then .error after.refusal else .ok (name, after)

def anchored (token : Text → Token) : Step := fun source => do
  let source ← source.saveCandidate
  let (name, place) ← readAnchor source.place.next
  return { source.push (token name) with place, keyAllowed := false }

/-- Whether a tag names its handle: a second exclamation mark before a blank. -/
def hasHandle (place : Place) : Bool :=
  (place.ahead fun c => !(c == ' ' || isBreak c)).contains '!'

def readTag (place : Place) : Except Fault (Token × Place) := do
  let after := place.next
  let (token, place) ←
    if after.sees '<' then do
      let (uri, place) ← readSomeUri after.next
      if place.sees '>' then pure (Token.tag none uri, place.next) else .error place.refusal
    else if isSpaceOrEnd after.peek then pure (Token.tag none ['!'], after)
    else if hasHandle after then do
      let (handle, place) ← readHandle place
      let (uri, place) ← readSomeUri place
      pure (Token.tag (some handle) uri, place)
    else do
      let (uri, place) ← readSomeUri after
      pure (Token.tag (some ['!']) uri, place)
  if endsWord place then return (token, place) else .error .token

def tagged : Step := fun source => do
  let source ← source.saveCandidate
  let (token, place) ← readTag source.place
  return { source.push token with place, keyAllowed := false }

def blockScalar (folded : Bool) : Step := fun source => do
  let source ← { source with keyAllowed := true }.dropCandidate
  let (text, place) ← ScalarText.block folded source.indent source.place
  return { source.push (.scalar text false) with place }

def quotedScalar (double : Bool) : Step := fun source => do
  let source ← source.saveCandidate
  let (text, place) ← ScalarText.quoted double source.place
  return { source.push (.scalar text false) with place, keyAllowed := false }

def plainScalar : Step := fun source => do
  let source ← source.saveCandidate
  let (text, place, broken) := ScalarText.plain source.inFlow (source.indent + 1) source.place
  return { source.push (.scalar text true) with place, keyAllowed := broken }

def indicators : List Char := "-?:,[]\x7b\x7d#&*!|>'\"%@`".toList

def startsPlain (flow : Bool) (c : Char) (after : Option Char) : Bool :=
  !(c == ' ' || c == '\t' || isBreak c || indicators.contains c) ||
    (!isSpaceOrEnd after && (c == '-' || (!flow && (c == '?' || c == ':'))))

/-- Reads the token that begins with `c`. -/
def dispatch (c : Char) : Step := fun source =>
  let place := source.place
  let after := place.peekAt 1
  let margin := place.column == 0
  if c = '%' && margin then source.directive
  else if margin && place.atMarker '-' then source.documentMarker .documentStart
  else if margin && place.atMarker '.' then source.documentMarker .documentEnd
  else if c = '[' then source.flowStart .flowSequenceStart
  else if c = '\x7b' then source.flowStart .flowMappingStart
  else if c = ']' then source.flowEnd .flowSequenceEnd
  else if c = '\x7d' then source.flowEnd .flowMappingEnd
  else if c = ',' then source.flowEntry
  else if c = '-' && isSpaceOrEnd after then source.blockEntry
  else if c = '?' && (source.inFlow || isSpaceOrEnd after) then source.explicitKey
  else if c = ':' && (source.inFlow || isSpaceOrEnd after) then source.value
  else if c = '*' then source.anchored .alias
  else if c = '&' then source.anchored .anchor
  else if c = '!' then source.tagged
  else if c = '|' && !source.inFlow then source.blockScalar false
  else if c = '>' && !source.inFlow then source.blockScalar true
  else if c = '\'' then source.quotedScalar false
  else if c = '"' then source.quotedScalar true
  else if startsPlain source.inFlow c after then source.plainScalar
  else .error .token

def fetch : Step := fun source => do
  let source := source.skipBlank (source.place.rest.length + 1)
  source.place.check
  let source ← source.dropStale
  let source := source.unwind (Int.ofNat source.place.column)
  match source.place.peek with
  | none => source.streamEnd
  | some c => do
      let source ← source.dispatch c
      source.place.check
      return source

/-- Whether more of the text must be read before the first token is settled. -/
def isUnsettled (source : TokenSource) : Bool :=
  match source.queue with
  | [] => true
  | _ => source.candidates.any (·.number == source.taken)

/-- Reads until the first token is settled. -/
def settle : Nat → TokenSource → Except Fault TokenSource
  | 0, _ => .error .token
  | fuel + 1, source =>
      if source.done then .ok source
      else if source.queue.isEmpty then do settle fuel (← source.fetch)
      else do
        let source ← source.dropStale
        if source.isUnsettled then settle fuel (← source.fetch) else return source

/-- The first token, which stays where it is. -/
def first (source : TokenSource) : Except Fault (Token × TokenSource) := do
  let source ← settle (source.place.rest.length + 2) source
  return (source.queue.headD .streamEnd, source)

def drop (source : TokenSource) : TokenSource :=
  { source with queue := source.queue.drop 1, taken := source.taken + 1 }

/-- A byte order mark in front is passed over. -/
def ofText (text : Text) (obstacle : Option Fault) : TokenSource :=
  let place : Place := { rest := text, obstacle }
  { place := if place.sees '\uFEFF' then place.next else place }

end TokenSource

end Transclusion.Yaml
