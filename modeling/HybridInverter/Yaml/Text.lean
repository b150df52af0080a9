import HybridInverter.Text.Basic
import HybridInverter.Text.Numeral

/-!
What the scalars and tags of a YAML document say. Blanks and breaks between two stretches of text
fold into a blank or into the breaks behind the first one; a block scalar keeps its lines below an
indentation. A tag is a row of bytes rather than a text, since it may spell bytes by their numbers.
-/
namespace HybridInverter

namespace Yaml

def isBlank (c : Char) : Bool :=
  c == ' ' || c == '\t'

def isBreak (c : Char) : Bool :=
  c == '\n' || c == '\u2028' || c == '\u2029'

/-- A blank or a break; the end of a text counts as one. -/
def isBlankOrEnd : Option Char → Bool
  | none => true
  | some c => isBlank c || isBreak c

/-- Every other way to end a line becomes a line feed. -/
def normalize : List Char → List Char
  | [] => []
  | '\r' :: '\n' :: rest => '\n' :: normalize rest
  | c :: rest => (if c = '\r' ∨ c = '\u0085' then '\n' else c) :: normalize rest

def isPermitted (c : Char) : Bool :=
  let n := c.toNat
  n == 0x09 || n == 0x0A || n == 0x0D || (0x20 ≤ n && n ≤ 0x7E) || n == 0x85 ||
    (0xA0 ≤ n && n ≤ 0xD7FF) || (0xE000 ≤ n && n ≤ 0xFFFD) || 0x10000 ≤ n

/-- A line that begins with three dashes or three points, alone or with a blank behind them. -/
def isMarker (line : List Char) : Bool :=
  (line.take 3 == ['-', '-', '-'] || line.take 3 == ['.', '.', '.']) &&
    isBlankOrEnd (line.drop 3).head?

/-- What stands between two stretches of text. -/
inductive Gap where
  | blanks (cs : List Char)
  /-- The first break, unless it was escaped, and the others. -/
  | breaks (first : Option Char) (others : List Char)

namespace Gap

def text : Gap → List Char
  | .blanks cs => cs
  | .breaks (some '\n') [] => [' ']
  | .breaks (some '\n') others => others
  | .breaks first others => first.toList ++ others

/-- Blanks behind a break do not count. -/
def addBlank (g : Gap) (c : Char) : Gap :=
  match g with
  | .blanks cs => .blanks (cs ++ [c])
  | g => g

def addBreak (g : Gap) (c : Char) : Gap :=
  match g with
  | .blanks _ => .breaks (some c) []
  | .breaks first others => .breaks first (others ++ [c])

end Gap

/-- A text with its gaps folded; one at the end is left out. -/
def foldPlain (gap : Gap) : List Char → List Char
  | [] => []
  | c :: rest =>
    if isBlank c then foldPlain (gap.addBlank c) rest
    else if isBreak c then foldPlain (gap.addBreak c) rest
    else gap.text ++ c :: foldPlain (.blanks []) rest

/-- What stands between single quotes, where a quote is written twice. -/
def foldSingle (gap : Gap) : List Char → List Char
  | [] => gap.text
  | '\'' :: '\'' :: rest => gap.text ++ '\'' :: foldSingle (.blanks []) rest
  | c :: rest =>
    if isBlank c then foldSingle (gap.addBlank c) rest
    else if isBreak c then foldSingle (gap.addBreak c) rest
    else gap.text ++ c :: foldSingle (.blanks []) rest

/-- The characters that one letter behind a backslash stands for. -/
def escapes : List (Char × Char) :=
  [('0', '\x00'), ('a', '\x07'), ('b', '\x08'), ('t', '\t'), ('\t', '\t'), ('n', '\n'),
   ('v', '\x0b'), ('f', '\x0c'), ('r', '\r'), ('e', '\x1b'), (' ', ' '), ('"', '"'), ('/', '/'),
   ('\\', '\\'), ('N', '\u0085'), ('_', '\u00a0'), ('L', '\u2028'), ('P', '\u2029')]

def hexWidth : Char → Option Nat
  | 'x' => some 2
  | 'u' => some 4
  | 'U' => some 8
  | _ => none

def charOf (n : Nat) : Option Char :=
  if h : n.isValidChar then some (Char.ofNatAux n h) else none

/-- What stands between double quotes, where a backslash begins an escape. An escaped break and the
blanks behind it are nothing. -/
def foldDouble (gap : Gap) : List Char → Option (List Char)
  | [] => some gap.text
  | '\\' :: [] => none
  | '\\' :: c :: rest => do
    if isBreak c then return gap.text ++ (← foldDouble (.breaks none []) rest)
    else
      match hexWidth c with
      | some width =>
        let digits := rest.take width
        if digits.length < width then none
        else
          let e ← charOf (← Numeral.hexValue digits)
          return gap.text ++ e :: (← foldDouble (.blanks []) (rest.drop width))
      | none =>
        let e ← escapes.lookup c
        return gap.text ++ e :: (← foldDouble (.blanks []) rest)
  | c :: rest => do
    if isBlank c then foldDouble (gap.addBlank c) rest
    else if isBreak c then foldDouble (gap.addBreak c) rest
    else return gap.text ++ c :: (← foldDouble (.blanks []) rest)
termination_by cs => cs.length

def singleLength : List Char → Option Nat
  | [] => none
  | '\'' :: '\'' :: rest => (singleLength rest).map (· + 2)
  | c :: rest => if c = '\'' then some 0 else (singleLength rest).map (· + 1)

def doubleLength : List Char → Option Nat
  | [] => none
  | '\\' :: _ :: rest => (doubleLength rest).map (· + 2)
  | c :: rest => if c = '"' then some 0 else (doubleLength rest).map (· + 1)

structure Line where
  text : List Char
  ending : Option Char

namespace Line

def length (l : Line) : Nat :=
  l.text.length + l.ending.toList.length

def indentation (l : Line) : Nat :=
  (l.text.takeWhile (· == ' ')).length

def isEmpty (l : Line) : Bool :=
  l.text.all (· == ' ')

end Line

/-- The lines of a text, the first one going on from `before`. -/
def linesFrom (before : List Char) : List Char → List Line
  | [] => if before.isEmpty then [] else [⟨before, none⟩]
  | c :: rest =>
    if isBreak c then ⟨before, some c⟩ :: linesFrom [] rest else linesFrom (before ++ [c]) rest

inductive Chomping where
  | clip
  | strip
  | keep
  deriving DecidableEq

/-- What stands behind the mark of a block scalar. -/
structure BlockHeader where
  chomping : Chomping := .clip
  increment : Option Nat := none

namespace BlockHeader

def chompingOf? : Char → Option Chomping
  | '+' => some .keep
  | '-' => some .strip
  | _ => none

/-- An increment of zero is none at all, and wrong. -/
def incrementOf? (c : Char) : Option Nat :=
  if c.isDigit && c != '0' then some (c.toNat - 48) else none

/-- The two signs in either order, and what stands behind them. -/
def readSigns : List Char → BlockHeader × List Char
  | a :: rest =>
    match chompingOf? a, incrementOf? a, rest with
    | some chomping, _, b :: rest' =>
      match incrementOf? b with
      | some n => (⟨chomping, some n⟩, rest')
      | none => (⟨chomping, none⟩, rest)
    | some chomping, _, [] => (⟨chomping, none⟩, [])
    | none, some n, b :: rest' =>
      match chompingOf? b with
      | some chomping => (⟨chomping, some n⟩, rest')
      | none => (⟨.clip, some n⟩, rest)
    | none, some n, [] => (⟨.clip, some n⟩, [])
    | none, none, _ => ({}, a :: rest)
  | [] => ({}, [])

/-- Behind the signs a line holds nothing but blanks and a comment. -/
def read (line : List Char) : Option BlockHeader :=
  let (header, rest) := readSigns line
  match rest.dropWhile isBlank with
  | [] => some header
  | '#' :: _ => some header
  | _ => none

end BlockHeader

namespace Block

/-- The indentation of lines that do not say it: that of the deepest of them up to the first that
holds more than blanks, and more than that of what is around them. A tab is no indentation. -/
def findIndentation (parent : Int) (lines : List Line) : Option Nat :=
  let empty := lines.takeWhile Line.isEmpty
  let first := lines[empty.length]?
  let deepest := ((empty ++ first.toList).map Line.indentation).foldl max 0
  if first.any fun l => l.text[l.indentation]? == some '\t' then none
  else some (max deepest (max (parent + 1).toNat 1))

/-- The lines that belong to a scalar, cut to what stands behind the indentation; lines of blanks
are empty. -/
def gather (indentation : Nat) : List Line → Option (List Line)
  | [] => some []
  | l :: rest =>
    let depth := min l.indentation indentation
    let text := l.text.drop depth
    if text.isEmpty then
      if l.ending.isNone then some [] else (gather indentation rest).map (⟨[], l.ending⟩ :: ·)
    else if depth = indentation then (gather indentation rest).map (⟨text, l.ending⟩ :: ·)
    else if text.head? = some '\t' then none
    else some []

/-- The breaks before the next line that holds something: that of the last such line and those of
the empty lines behind it; and whether the last such line began with a blank. -/
structure Join where
  last : List Char := []
  empty : List Char := []
  indented : Bool := false

/-- Between two lines that both begin with text, a folded scalar has a blank for a single break. -/
def Join.text (folded : Bool) (j : Join) (next : List Char) : List Char :=
  if folded && j.last == ['\n'] && !j.indented && !next.head?.any isBlank then
    if j.empty.isEmpty then [' '] else j.empty
  else j.last ++ j.empty

def Join.tail (j : Join) : Chomping → List Char
  | .strip => []
  | .clip => j.last
  | .keep => j.last ++ j.empty

def text (folded : Bool) (chomping : Chomping) (j : Join) : List Line → List Char
  | [] => j.tail chomping
  | l :: rest =>
    if l.text.isEmpty then text folded chomping { j with empty := j.empty ++ l.ending.toList } rest
    else
      j.text folded l.text ++ l.text ++
        text folded chomping ⟨l.ending.toList, [], l.text.head?.any isBlank⟩ rest

end Block
structure Tag where
  bytes : List UInt8
  deriving DecidableEq, Repr

namespace Tag

def mark : UInt8 := 0x21

def bare : Tag := ⟨[mark]⟩

def core (name : String) : Tag :=
  ⟨Utf8.encode ("tag:yaml.org,2002:" ++ name).toList⟩

def isLocal (t : Tag) : Bool :=
  t.bytes.head? == some mark

/-- The name in a tag of one's own. What is no text counts as no name. -/
def localName? (t : Tag) : Option String :=
  if t.isLocal then String.fromUTF8? ⟨(t.bytes.drop 1).toArray⟩ else none

/-- How many bytes a character begun by a byte has. -/
def sequenceLength (byte : Nat) : Option Nat :=
  if byte < 0x80 then some 1
  else if byte < 0xC0 then none
  else if byte < 0xE0 then some 2
  else if byte < 0xF0 then some 3
  else if byte < 0xF8 then some 4
  else none

/-- The bytes of ASCII characters, a percent sign and two digits being the byte of that number. The
bytes of one character have to be given together, so that `due` more of them must come at once. -/
def unescape (due : Nat) : List Char → Option (List UInt8)
  | [] => if due = 0 then some [] else none
  | '%' :: a :: b :: rest => do
    let byte := (← Numeral.hexDigit? a) * 16 + (← Numeral.hexDigit? b)
    let due ← if due = 0 then (sequenceLength byte).map (· - 1)
      else if byte / 64 = 2 then some (due - 1) else none
    return byte.toUInt8 :: (← unescape due rest)
  | c :: rest =>
    if c = '%' ∨ due ≠ 0 then none else (unescape 0 rest).map (c.toNat.toUInt8 :: ·)

/-- The bytes that a stretch of a tag spells, up to a zero. -/
def spelled? (cs : List Char) : Option (List UInt8) :=
  (unescape 0 cs).map (·.takeWhile (· ≠ 0))

end Tag
end Yaml

end HybridInverter
