import HybridInverter.Text.Numeral
import HybridInverter.Yaml.Text

/-!
A YAML document as tokens. Indentation becomes tokens of its own: a block collection is opened by
its first entry and closed where the indentation goes back. Whether a stretch is a key is known only
at the colon behind it, so places where one may begin are remembered, one for each level of
brackets, and the key is marked afterwards.
-/
namespace HybridInverter
namespace Yaml

inductive Style where
  | plain
  | quoted
  | literal
  | folded
  deriving DecidableEq, Repr

inductive Token where
  | versionDirective (major minor : Nat)
  | tagDirective (handle : String) (start : List UInt8)
  | documentStart
  | documentEnd
  | blockSequenceStart
  | blockMappingStart
  | blockEnd
  | flowSequenceStart
  | flowSequenceEnd
  | flowMappingStart
  | flowMappingEnd
  | blockEntry
  | flowEntry
  | key
  | value
  | alias (name : String)
  | anchor (name : String)
  | tag (handle : String) (suffix : List UInt8)
  | scalar (style : Style) (text : String)
  deriving DecidableEq, Repr

/-- A place in a text, and the text from there on. Lengths along a line are in bytes, depths in
characters. -/
structure Place where
  rest : List Char
  offset : Nat := 0
  line : Nat := 0
  column : Nat := 0

namespace Place

def advance : Nat → Place → Place
  | 0, p => p
  | n + 1, p =>
    match p.rest with
    | [] => p
    | c :: rest =>
      let offset := p.offset + c.utf8Size
      advance n (if isBreak c then ⟨rest, offset, p.line + 1, 0⟩
        else ⟨rest, offset, p.line, p.column + 1⟩)

def restOfLine (p : Place) : List Char :=
  p.rest.takeWhile (!isBreak ·)

def atMarker (p : Place) : Bool :=
  p.column == 0 && isMarker p.restOfLine

end Place

namespace Token

structure Candidate where
  /-- It has to be a key, since a block mapping goes on here. -/
  required : Bool
  /-- The number of tokens before it. -/
  before : Nat
  place : Place

structure Progress where
  place : Place
  tokens : Array Token := #[]
  candidate : Option Candidate := none
  /-- The candidates outside the brackets that are open, the innermost first. -/
  outer : List (Option Candidate) := []
  indentation : Int := -1
  outerIndentations : List Int := []
  keyAllowed : Bool := true

namespace Progress

variable (p : Progress)

def inFlow : Bool :=
  !p.outer.isEmpty

def rest : List Char := p.place.rest

def column : Int := p.place.column

def advance (n : Nat) : Progress :=
  { p with place := p.place.advance n }

def push (t : Token) : Progress :=
  { p with tokens := p.tokens.push t }

def allowKey (b : Bool) : Progress :=
  { p with keyAllowed := b }

/-- How many characters lie before the next token: blanks, breaks and comments. Tabs count where no
indentation is looked for, and behind a break of a block a key may begin. A byte order mark at the
beginning of a line takes a column. -/
def gapLength (inFlow : Bool) (keyAllowed comment : Bool) (column : Nat) : List Char → Nat × Bool
  | [] => (0, keyAllowed)
  | c :: rest =>
    let further := fun (r : Nat × Bool) => (r.1 + 1, r.2)
    if isBreak c then further (gapLength inFlow (keyAllowed || !inFlow) false 0 rest)
    else if comment then further (gapLength inFlow keyAllowed true (column + 1) rest)
    else if c == ' ' || (c == '\t' && (inFlow || !keyAllowed)) ||
        (c == '\uFEFF' && column == 0) then
      further (gapLength inFlow keyAllowed false (column + 1) rest)
    else if c == '#' then further (gapLength inFlow keyAllowed true (column + 1) rest)
    else (0, keyAllowed)

def skipGap : Progress :=
  let (n, allowed) := gapLength p.inFlow p.keyAllowed false p.place.column p.rest
  (p.advance n).allowKey allowed

def maxKeyLength : Nat := 1024

/-- A key stands on one line and is not long. -/
def isStale (c : Candidate) : Bool :=
  c.place.line < p.place.line || c.place.offset + maxKeyLength < p.place.offset

/-- A candidate without those that are stale, unless it had to be a key. -/
def refresh (c : Option Candidate) : Option (Option Candidate) :=
  match c with
  | some k => if p.isStale k then (if k.required then none else some none) else some (some k)
  | none => some none

def dropStale : Option Progress := do
  return { p with candidate := ← p.refresh p.candidate, outer := ← p.outer.mapM p.refresh }

def dropCandidate : Option Progress :=
  if p.candidate.any (·.required) then none else some { p with candidate := none }

def saveCandidate : Option Progress :=
  if p.keyAllowed then do
    let required := !p.inFlow && p.indentation == p.column
    return { ← p.dropCandidate with candidate := some ⟨required, p.tokens.size, p.place⟩ }
  else some p

/-- Opens a block collection where the text is deeper than what is around it. -/
def openBlock (column : Int) (before : Nat) (t : Token) : Progress :=
  if !p.inFlow && p.indentation < column then
    { p with
      indentation := column
      outerIndentations := p.indentation :: p.outerIndentations
      tokens := (p.tokens.toList.take before ++ t :: p.tokens.toList.drop before).toArray }
  else p

/-- Closes the block collections that are deeper than a column, given those around them. -/
def closeBlocks (column : Int) (indentation : Int) (tokens : Array Token) :
    List Int → Int × Array Token × List Int
  | [] => (indentation, tokens, [])
  | around :: rest =>
    if column < indentation then closeBlocks column around (tokens.push .blockEnd) rest
    else (indentation, tokens, around :: rest)

def close (column : Int) : Progress :=
  if p.inFlow then p
  else
    let (indentation, tokens, outerIndentations) :=
      closeBlocks column p.indentation p.tokens p.outerIndentations
    { p with indentation, tokens, outerIndentations }

def topLevel (t : Token) (length : Nat) : Option Progress := do
  let p ← (p.close (-1)).dropCandidate
  return ((p.push t).allowKey false).advance length

def isWordChar (c : Char) : Bool :=
  c.isAlphanum || c == '_' || c == '-'

/-- The rest of a line that holds a directive: blanks and a comment. -/
def endsLine (cs : List Char) : Bool :=
  match cs.dropWhile isBlank with
  | [] => true
  | c :: _ => c == '#'

/-- Characters of a tag, brackets and commas only where nothing else can stand. -/
def isTagChar (everywhere : Bool) (c : Char) : Bool :=
  isWordChar c || c == '\'' || ";/?:@&=+$.%!~*()".toList.contains c ||
    (everywhere && ",[]".toList.contains c)

/-- An exclamation mark, word characters, and perhaps another mark. -/
def tagHandle (cs : List Char) : Option (List Char) :=
  match cs with
  | '!' :: rest =>
    let word := rest.takeWhile isWordChar
    match rest.drop word.length with
    | '!' :: _ => some ('!' :: word ++ ['!'])
    | _ => some ('!' :: word)
  | _ => none

def versionDirective (cs : List Char) : Option Token := do
  let cs := cs.dropWhile isBlank
  let major := cs.takeWhile Char.isDigit
  match cs.drop major.length with
  | '.' :: rest =>
    let minor := rest.takeWhile Char.isDigit
    if major.isEmpty || minor.isEmpty || 9 < major.length || 9 < minor.length then none
    else if endsLine (rest.drop minor.length) then
      some (.versionDirective (Numeral.value major) (Numeral.value minor))
    else none
  | _ => none

def tagDirective (cs : List Char) : Option Token := do
  let cs := cs.dropWhile isBlank
  let handle ← tagHandle cs
  if handle.getLast? ≠ some '!' then none
  else
    let rest := cs.drop handle.length
    if !rest.head?.any isBlank then none
    else
      let rest := rest.dropWhile isBlank
      let start := rest.takeWhile (isTagChar true)
      let behind := rest.drop start.length
      if start.isEmpty || !isBlankOrEnd behind.head? || !endsLine behind then
        none
      else some (.tagDirective (String.ofList handle) (← Tag.spelled? start))

def directive : Option Progress := do
  let line := p.place.restOfLine
  let name := (line.drop 1).takeWhile isWordChar
  let rest := line.drop (1 + name.length)
  if !isBlankOrEnd rest.head? then none
  else
    let t ← if name = "YAML".toList then versionDirective rest
      else if name = "TAG".toList then tagDirective rest
      else none
    p.topLevel t (line.length + 1)

def openFlow (t : Token) : Option Progress := do
  let p ← p.saveCandidate
  return { p.push t with
    candidate := none, outer := p.candidate :: p.outer, keyAllowed := true : Progress }.advance 1

/-- A bracket closed that was not opened is left for the reader of the tokens to refuse. -/
def closeFlow (t : Token) : Option Progress := do
  let p ← p.dropCandidate
  let p := match p.outer with
    | [] => p
    | candidate :: outer => { p with candidate, outer }
  return ((p.push t).allowKey false).advance 1

def flowEntry : Option Progress := do
  return (((← p.dropCandidate).push .flowEntry).allowKey true).advance 1

def blockEntry : Option Progress := do
  if !p.inFlow && !p.keyAllowed then none
  else
    let p ← (p.openBlock p.column p.tokens.size .blockSequenceStart).dropCandidate
    return ((p.push .blockEntry).allowKey true).advance 1

def key : Option Progress := do
  if !p.inFlow && !p.keyAllowed then none
  else
    let p ← (p.openBlock p.column p.tokens.size .blockMappingStart).dropCandidate
    return ((p.push .key).allowKey (!p.inFlow)).advance 1

/-- A colon makes the candidate a key, after the fact. -/
def value : Option Progress :=
  match p.candidate with
  | some c =>
    let marked := { p with
      tokens :=
        (p.tokens.toList.take c.before ++ Token.key :: p.tokens.toList.drop c.before).toArray }
    let opened := marked.openBlock c.place.column c.before .blockMappingStart
    some ((({ opened with candidate := none } : Progress).push .value).allowKey false |>.advance 1)
  | none =>
    if !p.inFlow && !p.keyAllowed then none
    else
      let opened := p.openBlock p.column p.tokens.size .blockMappingStart
      some ((opened.push .value).allowKey (!p.inFlow) |>.advance 1)

def word (t : Token) (length : Nat) : Option Progress := do
  return (((← p.saveCandidate).push t).allowKey false).advance length

/-- Signs that end a name as a blank does. -/
def endsName (c : Char) : Bool :=
  ['?', ':', ',', ']', '\x7d', '%', '@', '\x60'].contains c

def name (make : String → Token) : Option Progress :=
  let name := (p.rest.drop 1).takeWhile isWordChar
  let next := p.rest[1 + name.length]?
  if name.isEmpty || !(isBlankOrEnd next || next.any endsName) then none
  else p.word (make (String.ofList name)) (1 + name.length)

/-- A tag in full between angle brackets, or behind a handle. A mark alone is a tag in full. -/
def tag : Option Progress := do
  let (handle, suffix, length) ← match p.rest with
    | _ :: '<' :: rest =>
      let uri := rest.takeWhile (isTagChar true)
      if uri.isEmpty || rest[uri.length]? ≠ some '>' then none
      else some ([], ← Tag.spelled? uri, uri.length + 3)
    | cs => do
      let handle ← tagHandle cs
      let suffix := (cs.drop handle.length).takeWhile (isTagChar false)
      let length := handle.length + suffix.length
      if 1 < handle.length && handle.getLast? = some '!' then
        if suffix.isEmpty then none else some (handle, ← Tag.spelled? suffix, length)
      else
        let bytes ← Tag.spelled? (handle.drop 1 ++ suffix)
        some (if bytes.isEmpty then ([], Tag.bare.bytes, length) else (['!'], bytes, length))
  let next := p.rest[length]?
  if !isBlankOrEnd next && !(p.inFlow && next == some ',') then none
  else p.word (.tag (String.ofList handle) suffix) length

/-- A quoted text must not hold the mark of a document at the beginning of a line. -/
def holdsMarker (content : List Char) : Bool :=
  ((linesFrom [] (content ++ ['"'])).drop 1).any fun l => isMarker l.text

def quoted (length : Option Nat) (read : List Char → Option (List Char)) : Option Progress := do
  let n ← length
  let content := (p.rest.drop 1).take n
  if holdsMarker content then none
  else p.word (.scalar .quoted (String.ofList (← read content))) (n + 2)

def blockScalar (isFolded : Bool) : Option Progress := do
  let p ← p.dropCandidate
  let header ← BlockHeader.read (p.place.restOfLine.drop 1)
  let body := linesFrom [] (p.rest.drop (p.place.restOfLine.length + 1))
  let indentation ← match header.increment with
    | some n => some (max p.indentation 0 + n).toNat
    | none => Block.findIndentation p.indentation body
  let lines ← Block.gather indentation body
  let text := Block.text isFolded header.chomping {} lines
  let taken := (body.take lines.length).foldr (fun l n => l.length + n) 0
  let style := if isFolded then Style.folded else .literal
  return ((p.push (.scalar style (String.ofList text))).allowKey true).advance
    (p.place.restOfLine.length + 1 + taken)

/-- Signs that shape a collection in brackets. -/
def isFlowSign (c : Char) : Bool :=
  [',', '[', ']', '\x7b', '\x7d'].contains c

/-- How long the text from here to the next blank or sign is. Inside brackets a colon must not stand
before another sign. -/
def stretchLength (inFlow : Bool) : List Char → Option Nat
  | [] => some 0
  | c :: rest =>
    let next := rest.head?
    if isBlank c || isBreak c then some 0
    else if inFlow && c == ':' && next.any (fun n => n == '?' || isFlowSign n) then none
    else if c == ':' && isBlankOrEnd next then some 0
    else if inFlow && isFlowSign c then some 0
    else (stretchLength inFlow rest).map (· + 1)

/-- Tabs behind a break must not stand in for indentation. -/
def abusesTab (indentation : Int) (broken : Bool) (column : Int) : List Char → Bool
  | [] => false
  | c :: rest =>
    if isBreak c then abusesTab indentation true 0 rest
    else (broken && c == '\t' && column < indentation) ||
      abusesTab indentation broken (column + 1) rest

/-- How long a plain scalar is, how long with the gap behind it, and whether that gap has a break. A
scalar goes on over gaps up to a sign, a comment, the mark of a document or a line that is not deep
enough. It comes to `content` characters and with the gap to `whole` so far; `fuel` bounds the
stretches still to come. -/
def plainLength (inFlow : Bool) (indentation : Int) :
    Nat → Place → (content whole : Nat) → Bool → Option (Nat × Nat × Bool)
  | 0, _, content, whole, broken => some (content, whole, broken)
  | fuel + 1, place, content, whole, broken =>
    if place.atMarker || place.rest.head? == some '#' then some (content, whole, broken)
    else
      match stretchLength inFlow place.rest with
      | none => none
      | some 0 => some (content, whole, broken)
      | some n =>
        let behind := place.advance n
        let gap := behind.rest.takeWhile fun c => isBlank c || isBreak c
        let next := behind.advance gap.length
        let content := whole + n
        let whole := content + gap.length
        let broken := gap.any isBreak
        if abusesTab indentation false 0 gap then none
        else if gap.isEmpty || (!inFlow && (next.column : Int) < indentation) then
          some (content, whole, broken)
        else plainLength inFlow indentation fuel next content whole broken

def plain : Option Progress := do
  let p ← p.saveCandidate
  let (content, whole, broken) ←
    plainLength p.inFlow (p.indentation + 1) p.rest.length p.place 0 0 false
  let text := foldPlain (.blanks []) (p.rest.take content)
  return ((p.push (.scalar .plain (String.ofList text))).allowKey broken).advance whole

/-- Signs that no plain scalar begins with, but for three of them before a character. -/
def isIndicator (c : Char) : Bool :=
  ['-', '?', ':', ',', '[', ']', '\x7b', '\x7d', '#', '&', '*', '!', '|', '>', '\'', '"', '%', '@',
    '\x60'].contains c

def beginsPlain (c : Char) (next : Option Char) : Bool :=
  !(isBlank c || isBreak c || isIndicator c) ||
    (c == '-' && !next.any isBlank) ||
    (!p.inFlow && (c == '?' || c == ':') && !isBlankOrEnd next)

/-- The token that begins with a character. -/
def next (c : Char) (rest : List Char) : Option Progress :=
  let behind := rest.head?
  if p.place.column = 0 && c = '%' then p.directive
  else if p.place.atMarker then p.topLevel (if c = '-' then .documentStart else .documentEnd) 3
  else if c = '[' then p.openFlow .flowSequenceStart
  else if c = '\x7b' then p.openFlow .flowMappingStart
  else if c = ']' then p.closeFlow .flowSequenceEnd
  else if c = '\x7d' then p.closeFlow .flowMappingEnd
  else if c = ',' then p.flowEntry
  else if c = '-' && isBlankOrEnd behind then p.blockEntry
  else if c = '?' && (p.inFlow || isBlankOrEnd behind) then p.key
  else if c = ':' && (p.inFlow || isBlankOrEnd behind) then p.value
  else if c = '*' then p.name .alias
  else if c = '&' then p.name .anchor
  else if c = '!' then p.tag
  else if c = '|' && !p.inFlow then p.blockScalar false
  else if c = '>' && !p.inFlow then p.blockScalar true
  else if c = '\'' then p.quoted (singleLength rest) fun cs => some (foldSingle (.blanks []) cs)
  else if c = '"' then p.quoted (doubleLength rest) (foldDouble (.blanks []))
  else if p.beginsPlain c behind then p.plain
  else none

/-- The end of the text closes every block. -/
def finish : Option (List Token) := do
  return (← (p.close (-1)).dropCandidate).tokens.toList

/-- Every token takes at least one character, so that `fuel` of as many suffices. -/
def run : Nat → Progress → Option (List Token)
  | 0, _ => none
  | fuel + 1, p => do
    let p ← p.skipGap.dropStale
    match p.rest with
    | [] => p.finish
    | c :: rest => run fuel (← (p.close p.column).next c rest)

end Progress

def ofText? (text : List Char) : Option (List Token) :=
  if text.all isPermitted then
    let text := normalize text
    Progress.run (text.length + 1) { place := { rest := text } }
  else none

end Token
end Yaml
end HybridInverter
