/-!
Texts and their bytes. A text is cut in two at a mark, or freed of the blanks around it; as UTF-8,
`encode` writes its characters and `decode` reads any bytes, a longest part that no character
continues counting as one replacement character. Cuts and lengths are counted in bytes there.
-/
namespace HybridInverter

namespace Text

def cutFirst (mark : Char) : List Char → Option (List Char × List Char)
  | [] => none
  | c :: rest =>
    if c = mark then some ([], rest) else (cutFirst mark rest).map fun p => (c :: p.1, p.2)

def cutLast (mark : Char) (text : List Char) : Option (List Char × List Char) :=
  (cutFirst mark text.reverse).map fun p => (p.2.reverse, p.1.reverse)

def isBlank (c : Char) : Bool :=
  let n := c.toNat
  (9 ≤ n && n ≤ 13) || n == 0x20 || n == 0x85 || n == 0xA0 || n == 0x1680 ||
    (0x2000 ≤ n && n ≤ 0x200A) || n == 0x2028 || n == 0x2029 || n == 0x202F || n == 0x205F ||
    n == 0x3000

def trimLeft (text : List Char) : List Char :=
  text.dropWhile isBlank

def trim (text : List Char) : List Char :=
  (trimLeft (trimLeft text).reverse).reverse

def padRight (width : Nat) (text : List Char) : List Char :=
  text ++ List.replicate (width - text.length) ' '

theorem trimLeft_eq_self {text : List Char} (h : ∀ c ∈ text, isBlank c = false) :
    trimLeft text = text := by
  cases text with
  | nil => rfl
  | cons c text => simp [trimLeft, h c List.mem_cons_self]

theorem trim_eq_self {text : List Char} (h : ∀ c ∈ text, isBlank c = false) : trim text = text := by
  have hreverse : ∀ c ∈ text.reverse, isBlank c = false := fun c hc => h c (List.mem_reverse.mp hc)
  rw [trim, trimLeft_eq_self h, trimLeft_eq_self hreverse, List.reverse_reverse]

end Text

namespace Utf8

def encode (text : List Char) : List UInt8 :=
  text.flatMap String.utf8EncodeChar

def size : List Char → Nat
  | [] => 0
  | c :: rest => c.utf8Size + size rest

@[simp] theorem size_nil : size [] = 0 := rfl
@[simp] theorem size_cons (c : Char) (text : List Char) :
    size (c :: text) = c.utf8Size + size text := rfl
@[simp] theorem size_append (a b : List Char) : size (a ++ b) = size a + size b := by
  induction a with
  | nil => simp
  | cons c a ih => simp [ih, Nat.add_assoc]
@[simp] theorem encode_nil : encode [] = [] := rfl
@[simp] theorem encode_cons (c : Char) (text : List Char) :
    encode (c :: text) = String.utf8EncodeChar c ++ encode text := by simp [encode]
@[simp] theorem encode_append (a b : List Char) : encode (a ++ b) = encode a ++ encode b := by
  simp [encode]

def replacement : Char := '\uFFFD'

/-- A character begun but not complete: the bytes still owed, the bounds of the next one and the
value so far. Nothing is begun when none are owed. -/
structure Partial where
  owed : Nat := 0
  low : UInt8 := 0x80
  high : UInt8 := 0xBF
  value : Nat := 0

/-- A byte where a character begins: what it completes, and what it leaves begun. -/
def first (b : UInt8) : List Char × Partial :=
  if b < 0x80 then ([Char.ofNat b.toNat], {})
  else if 0xC2 ≤ b ∧ b ≤ 0xDF then ([], ⟨1, 0x80, 0xBF, b.toNat % 32⟩)
  else if b = 0xE0 then ([], ⟨2, 0xA0, 0xBF, b.toNat % 16⟩)
  else if b = 0xED then ([], ⟨2, 0x80, 0x9F, b.toNat % 16⟩)
  else if 0xE1 ≤ b ∧ b ≤ 0xEF then ([], ⟨2, 0x80, 0xBF, b.toNat % 16⟩)
  else if b = 0xF0 then ([], ⟨3, 0x90, 0xBF, b.toNat % 8⟩)
  else if 0xF1 ≤ b ∧ b ≤ 0xF3 then ([], ⟨3, 0x80, 0xBF, b.toNat % 8⟩)
  else if b = 0xF4 then ([], ⟨3, 0x80, 0x8F, b.toNat % 8⟩)
  else ([replacement], {})

/-- A byte that does not continue what was begun ends it and begins anew itself. -/
def step (p : Partial) (b : UInt8) : List Char × Partial :=
  if p.owed = 0 then first b
  else if p.low ≤ b ∧ b ≤ p.high then
    let value := p.value * 64 + b.toNat % 64
    if p.owed = 1 then ([Char.ofNat value], {}) else ([], ⟨p.owed - 1, 0x80, 0xBF, value⟩)
  else (replacement :: (first b).1, (first b).2)

def decodeFrom (p : Partial) : List UInt8 → List Char
  | [] => if p.owed = 0 then [] else [replacement]
  | b :: rest => (step p b).1 ++ decodeFrom (step p b).2 rest

def decode (bytes : List UInt8) : List Char :=
  decodeFrom {} bytes

def decode? (bytes : List UInt8) : Option (List Char) :=
  if encode (decode bytes) = bytes then some (decode bytes) else none

/-- The longest beginning of at most `most` bytes that ends between characters. -/
def take (most : Nat) : List Char → List Char
  | [] => []
  | c :: rest => if c.utf8Size ≤ most then c :: take (most - c.utf8Size) rest else []

/-- Nothing when byte `start` lies inside a character; past the end nothing is left. -/
def drop? (start : Nat) : List Char → Option (List Char)
  | [] => some []
  | c :: rest =>
    if start = 0 then some (c :: rest)
    else if c.utf8Size ≤ start then drop? (start - c.utf8Size) rest else none

/-- Nothing when byte `count` lies inside a character; past the end all is taken. -/
def take? (count : Nat) : List Char → Option (List Char)
  | [] => some []
  | c :: rest =>
    if count = 0 then some []
    else if c.utf8Size ≤ count then (take? (count - c.utf8Size) rest).map (c :: ·) else none

/-- The `count` bytes from byte `start` on, as far as the text goes; empty when either end lies
inside a character. -/
def slice (start count : Nat) (text : List Char) : List Char :=
  ((drop? start text).bind (take? count)).getD []

end Utf8

end HybridInverter
