import HybridInverter.Proofs.Response.Bounds

/-!
Decoding with its steps guarded. An index or a stretch may lie outside of its buffer, a text may be
cut inside a character, a difference may fall below zero, a sum may leave its word and a number may
not fit the type it is turned into: such a step has no result here. Decoding never takes one. It
comes to the same with its steps guarded and without. A slice of a text needs no guard, since one
that would divide a character is empty.
-/
namespace HybridInverter
namespace Guarded

def stretch (bytes : List UInt8) (start stop : Nat) : Option (List UInt8) :=
  if start ≤ stop ∧ stop ≤ bytes.length then some ((bytes.take stop).drop start) else none

def minus (a b : Nat) : Option Nat :=
  if b ≤ a then some (a - b) else none

def word (n : Nat) : Option Nat :=
  if n < 2 * Numeral.int64Bound then some n else none

def negate (n : Int) : Option Int :=
  if -(Numeral.int64Bound : Int) < n then some (-n) else none

def narrow (n : Int) : Option Int :=
  if -(int32Bound : Int) ≤ n ∧ n < int32Bound then some n else none

def saturate (n : Int) : Int :=
  max (-(Numeral.int64Bound : Int)) (min (Numeral.int64Bound - 1) n)

section
variable {bytes : List UInt8} {start stop a b n : Nat} {m : Int}

theorem stretch_eq (hstart : start ≤ stop) (hstop : stop ≤ bytes.length) :
    stretch bytes start stop = some ((bytes.take stop).drop start) :=
  if_pos ⟨hstart, hstop⟩

theorem minus_eq (h : b ≤ a) : minus a b = some (a - b) :=
  if_pos h

theorem word_eq (h : n < 2 * Numeral.int64Bound) : word n = some n :=
  if_pos h

theorem negate_eq (h : -(Numeral.int64Bound : Int) < m) : negate m = some (-m) :=
  if_pos h

theorem narrow_eq (hlow : -(int32Bound : Int) ≤ m) (hhigh : m < int32Bound) : narrow m = some m :=
  if_pos ⟨hlow, hhigh⟩

end

section
open Envelope

def addDigit (n : Nat) (b : UInt8) : Option Nat := do
  let digit ← minus b.toNat 0x30
  word (n * 10 + digit)

def readDigits (field : List UInt8) : Option Nat :=
  field.foldlM addDigit 0

/-- The first two bytes and the length field are looked at one by one. -/
def querySpan (data : List UInt8) (size : Nat) : Option (Except Failure Span) :=
  if data.length < headerSize then some (.error (.reply (.short data.length)))
  else do
    let first ← data[0]?
    let second ← data[1]?
    if first ≠ caret ∨ second ≠ queryMark then
      let opening ← stretch data 0 2
      some (.error (.reply (.opening (Utf8.decode opening))))
    else do
      let field ← stretch data 2 headerSize
      if !field.all isDigit then some (.error (.reply (.lengthField (Utf8.decode field))))
      else do
        let declared ← readDigits field
        let least ← word (declared + uncounted)
        if size < least then some (.error (.reply (.incomplete declared size)))
        else if declared < lengthWidth then some (.error (.reply (.lengthTooSmall declared)))
        else do
          let rest ← minus declared lengthWidth
          let stop ← word (headerSize + rest)
          some (.ok ⟨headerSize, stop⟩)

/-- A span is held within the buffer before it is cut out. -/
def payload (data : List UInt8) (s : Span) : Option (List Char) :=
  let stop := min s.stop data.length
  (stretch data (min s.start stop) stop).map Utf8.decode

theorem toNat_of_isDigit {b : UInt8} (h : isDigit b) : 0x30 ≤ b.toNat ∧ b.toNat ≤ 0x39 := by
  simpa [isDigit, UInt8.le_iff_toNat_le] using h

theorem foldl_digits_lt {field : List UInt8} (h : ∀ b ∈ field, isDigit b) (before : Nat) :
    field.foldl (fun n b => n * 10 + (b.toNat - 0x30)) before <
      (before + 1) * 10 ^ field.length := by
  induction field generalizing before with
  | nil => simp
  | cons b field ih =>
    obtain ⟨hb, hfield⟩ := List.forall_mem_cons.mp h
    have hdigit := toNat_of_isDigit hb
    calc (b :: field).foldl (fun n b => n * 10 + (b.toNat - 0x30)) before
        < (before * 10 + (b.toNat - 0x30) + 1) * 10 ^ field.length := ih hfield _
      _ ≤ (before + 1) * 10 * 10 ^ field.length := Nat.mul_le_mul_right _ (by omega)
      _ = (before + 1) * 10 ^ (b :: field).length := by
        rw [List.length_cons, Nat.pow_succ', Nat.mul_assoc]

theorem foldlM_addDigit {field : List UInt8} (h : ∀ b ∈ field, isDigit b) {before : Nat}
    (hroom : (before + 1) * 10 ^ field.length ≤ 2 * Numeral.int64Bound) :
    field.foldlM addDigit before =
      some (field.foldl (fun n b => n * 10 + (b.toNat - 0x30)) before) := by
  induction field generalizing before with
  | nil => rfl
  | cons b field ih =>
    obtain ⟨hb, hfield⟩ := List.forall_mem_cons.mp h
    have hdigit := toNat_of_isDigit hb
    have hpow : 1 ≤ 10 ^ field.length := Nat.one_le_pow _ _ (by decide)
    have hnext : (before * 10 + (b.toNat - 0x30) + 1) * 10 ^ field.length ≤
        2 * Numeral.int64Bound :=
      calc (before * 10 + (b.toNat - 0x30) + 1) * 10 ^ field.length
          ≤ (before + 1) * 10 * 10 ^ field.length := Nat.mul_le_mul_right _ (by omega)
        _ = (before + 1) * 10 ^ (b :: field).length := by
          rw [List.length_cons, Nat.pow_succ', Nat.mul_assoc]
        _ ≤ 2 * Numeral.int64Bound := hroom
    have hword : before * 10 + (b.toNat - 0x30) < 2 * Numeral.int64Bound :=
      Nat.lt_of_lt_of_le (Nat.lt_of_lt_of_le (Nat.lt_succ_self _) (Nat.le_mul_of_pos_right _ hpow))
        hnext
    have hstep : addDigit before b = some (before * 10 + (b.toNat - 0x30)) := by
      rw [addDigit, minus_eq hdigit.1, Option.bind_eq_bind, Option.bind_some, word_eq hword]
    rw [List.foldlM_cons, hstep, Option.bind_eq_bind, Option.bind_some, ih hfield hnext]
    rfl

theorem readDigits_field {a b c : UInt8} (h : ∀ d ∈ [a, b, c], isDigit d) :
    readDigits [a, b, c] = some (Envelope.readDigits [a, b, c]) ∧
      Envelope.readDigits [a, b, c] < 1000 := by
  have hlt := foldl_digits_lt h 0
  refine ⟨foldlM_addDigit h ?_, ?_⟩
  · simp only [List.length_cons, List.length_nil]
    decide
  · rw [Envelope.readDigits]
    simpa using hlt

theorem word_of_declared {n : Nat} (h : n < 1000) :
    word (n + uncounted) = some (n + uncounted) ∧
      word (headerSize + (n - lengthWidth)) = some (headerSize + (n - lengthWidth)) := by
  have hbound : 2000 < 2 * Numeral.int64Bound := by decide
  have hleast : uncounted < 1000 := by decide
  have hheader : headerSize < 1000 := by decide
  exact ⟨word_eq (by omega), word_eq (by omega)⟩

theorem querySpan_eq (data : List UInt8) (size : Nat) :
    querySpan data size = some (Envelope.querySpan data size) := by
  match data with
  | [] | [_] | [_, _] | [_, _, _] | [_, _, _, _] => rfl
  | a :: b :: c :: d :: e :: rest =>
    -- behind the first test there are five bytes, and nothing further is looked at
    have hlong : ¬ (a :: b :: c :: d :: e :: rest).length < headerSize := by
      simp [headerSize]
    have hopening : stretch (a :: b :: c :: d :: e :: rest) 0 2 = some [a, b] :=
      stretch_eq (by decide) (by simp)
    have hfield : stretch (a :: b :: c :: d :: e :: rest) 2 headerSize = some [c, d, e] :=
      stretch_eq (by decide) (by simp [headerSize])
    have htake : ((a :: b :: c :: d :: e :: rest).take headerSize).drop 2 = [c, d, e] := rfl
    have hfirst : (a :: b :: c :: d :: e :: rest)[0]? = some a := rfl
    have hsecond : (a :: b :: c :: d :: e :: rest)[1]? = some b := rfl
    have hmarks : (a :: b :: c :: d :: e :: rest).take 2 ≠ [caret, queryMark] ↔
        a ≠ caret ∨ b ≠ queryMark := by
      simp only [List.take_succ_cons, List.take_zero, ne_eq, List.cons.injEq, and_true]
      exact not_and_or
    rw [querySpan, Envelope.querySpan, if_neg hlong, if_neg hlong]
    simp only [hfirst, hsecond, hopening, hfield, htake, hmarks, Option.bind_eq_bind,
      Option.bind_some]
    split
    · rfl
    split
    · rfl
    · next hdigits =>
      have hall : ∀ d' ∈ [c, d, e], isDigit d' := by
        simpa using hdigits
      obtain ⟨hread, hlt⟩ := readDigits_field hall
      obtain ⟨hleast, hstop⟩ := word_of_declared hlt
      simp only [hread, hleast, Option.bind_some]
      split
      · rfl
      split
      · rfl
      · next hwidth =>
        rw [minus_eq (Nat.not_lt.mp hwidth), Option.bind_some, hstop, Option.bind_some]

theorem payload_eq (data : List UInt8) (s : Span) :
    payload data s = some (Envelope.payload data s) := by
  have hstop : min s.stop data.length ≤ data.length := Nat.min_le_right _ _
  have htake : data.take (min s.stop data.length) = data.take s.stop := by
    rw [← List.take_take, List.take_length]
  have hdrop : (data.take s.stop).drop (min s.start (min s.stop data.length)) =
      (data.take s.stop).drop s.start := by
    by_cases hstart : s.start ≤ min s.stop data.length
    · rw [Nat.min_eq_left hstart]
    -- behind the end there is nothing to cut out, wherever it begins
    · have hlength := Nat.le_of_not_le hstart
      rw [← List.length_take] at hlength
      rw [← List.length_take, Nat.min_eq_right hlength, List.drop_length,
        List.drop_eq_nil_of_le hlength]
  rw [payload, stretch_eq (Nat.min_le_right _ _) hstop, htake, hdrop]
  rfl

end

/-- The beginning of a text up to the last place, from `most` back, where a character ends. -/
def cutBack (text : List Char) : Nat → Option (List Char)
  | 0 => Utf8.take? 0 text
  | most + 1 =>
    match Utf8.take? (most + 1) text with
    | some front => some front
    | none => cutBack text most

def cut (most : Nat) (text : List Char) : Option (List Char) :=
  if Utf8.size text ≤ most then some text else cutBack text most

def addSaturating (n : Int) (c : Char) : Option Int := do
  let digit ← minus c.toNat '0'.toNat
  some (saturate (saturate (n * 10) + digit))

def leadingInt (text : List Char) : Option Int :=
  let p := splitSign (text.dropWhile fun c => c == ' ' || c == '\t')
  do
    let n ← (p.2.takeWhile Char.isDigit).foldlM addSaturating 0
    if p.1 then negate n else some n

def int (text : List Char) : Option Int := do
  let n ← leadingInt text
  narrow (clampInt32 n)

theorem cutBack_eq (text : List Char) (most : Nat) :
    cutBack text most = some (Utf8.take most text) := by
  induction most with
  | zero =>
    rw [cutBack]
    obtain h | ⟨-, hpos, -⟩ := Utf8.take?_eq_take_or 0 text
    · exact h
    · exact absurd hpos (Nat.lt_irrefl 0)
  | succ most ih =>
    rw [cutBack]
    obtain h | ⟨h, -, htake⟩ := Utf8.take?_eq_take_or (most + 1) text
    · rw [h]
    · rw [h, htake]
      exact ih

theorem cut_eq (most : Nat) (text : List Char) : cut most text = some (Utf8.take most text) := by
  rw [cut]
  split
  · next hroom => rw [Utf8.take_of_size_le hroom]
  · exact cutBack_eq text most

/-- Holding the number within 64 bits after every digit comes to the same as doing it at the end. -/
theorem foldlM_addSaturating {digits : List Char} (h : ∀ c ∈ digits, c.isDigit) (before : Nat) :
    digits.foldlM addSaturating (min (before : Int) (Numeral.int64Bound - 1)) =
      some (min (Numeral.valueFrom before digits : Int) (Numeral.int64Bound - 1)) := by
  induction digits generalizing before with
  | nil => rfl
  | cons c digits ih =>
    obtain ⟨hc, hdigits⟩ := List.forall_mem_cons.mp h
    have hdigit := Numeral.toNat_of_isDigit hc
    -- a number held at the bound gets past it again, since ten times the bound is past it
    have hstep : addSaturating (min (before : Int) (Numeral.int64Bound - 1)) c =
        some (min ((before * 10 + Numeral.digitValue c : Nat) : Int) (Numeral.int64Bound - 1)) := by
      rw [addSaturating, minus_eq (show '0'.toNat ≤ c.toNat from hdigit.1)]
      simp only [Option.bind_eq_bind, Option.bind_some, Option.some.injEq, saturate,
        Numeral.digitValue, Numeral.int64Bound_eq]
      omega
    rw [List.foldlM_cons, hstep, Option.bind_eq_bind, Option.bind_some, ih hdigits,
      Numeral.valueFrom_cons]

theorem leadingInt_eq (text : List Char) :
    leadingInt text = some (HybridInverter.leadingInt text) := by
  rw [leadingInt, leadingInt_eq_splitSign]
  generalize splitSign (text.dropWhile fun c => c == ' ' || c == '\t') = p
  have hdigits : ∀ c ∈ p.2.takeWhile Char.isDigit, c.isDigit :=
    fun c hc => List.mem_takeWhile_imp hc
  have hread := foldlM_addSaturating hdigits 0
  have hzero : min ((0 : Nat) : Int) (Numeral.int64Bound - 1) = 0 := by decide
  rw [hzero, ← Numeral.value] at hread
  simp only [hread, Option.bind_eq_bind, Option.bind_some]
  split
  · exact negate_eq (by rw [Numeral.int64Bound_eq]; omega)
  · rfl

theorem int_eq (text : List Char) : int text = some (Token.int text) := by
  obtain ⟨hlow, hhigh⟩ := clampInt32_bounds (HybridInverter.leadingInt text)
  rw [int, leadingInt_eq, Option.bind_eq_bind, Option.bind_some, narrow_eq hlow hhigh, Token.int]

/-- A token read into its field; `length` is the number in front. -/
def read (length : Int) (token : List Char) : Rule → Option Reading
  | .number => do
    let n ← int token
    some (.number n)
  | .state => do
    let n ← leadingInt token
    some (.state n)
  | .one => do
    let n ← leadingInt token
    some (.switch (n == 1))
  | .positive => do
    let n ← leadingInt token
    some (.switch (0 < n))
  | .text most => do
    let front ← cut most token
    some (.text (String.ofList front))
  | .clock => do
    let hour ← leadingInt (Utf8.slice 0 2 token)
    let hour ← narrow hour
    let minute ← leadingInt (Utf8.slice 2 2 token)
    let minute ← narrow minute
    some (.clock hour minute)
  | .serial => do
    let front ← cut (min length.toNat maxSerialSize) token
    some (.text (String.ofList front))

def store (rules : List Rule) (record : List Reading) (place : Nat) (token : List Char) :
    Option (List Reading) :=
  match rules[place]? with
  | some rule => do
    let value ← read (Rule.lengthBefore record place) token rule
    some (record.set place value)
  | none => some record

/-- A token is cut before it is handed on. -/
def storeCut (rules : List Rule) (record : List Reading) (s : List Char × Nat) :
    Option (List Reading) := do
  let token ← cut Token.maxSize s.1
  store rules record s.2 token

def fields (rules : List Rule) (expected : Nat) (payload : List Char) : Option (List Reading) :=
  ((Token.segments payload).zipIdx.filter fun s => s.2 < expected).foldlM (storeCut rules)
    (rules.map Rule.blank)

def push (amperes : List Int) (segment : List Char) : Option (List Int) := do
  let token ← cut Token.maxSize segment
  if Selectable.maxValues ≤ amperes.length then some amperes
  else do
    let n ← int token
    some (amperes ++ [n])

theorem read_eq (rule : Rule) (length : Int) (token : List Char) :
    read length token rule = some (rule.read length token) := by
  cases rule with
  | number => rw [read, int_eq]; rfl
  | state | one | positive => rw [read, leadingInt_eq]; rfl
  | text most | serial => rw [read, cut_eq]; rfl
  | clock =>
    have hbound : 99 < int32Bound := by decide
    have hhour := TimeBucket.hour_bounds token
    have hminute := TimeBucket.minute_bounds token
    rw [TimeBucket.hour] at hhour
    rw [TimeBucket.minute] at hminute
    simp only [read, leadingInt_eq, Option.bind_eq_bind, Option.bind_some]
    rw [narrow_eq (by omega) (by omega), Option.bind_some, narrow_eq (by omega) (by omega)]
    rfl

theorem store_eq (rules : List Rule) (record : List Reading) (place : Nat) (token : List Char) :
    store rules record place token = some (Rule.store rules record place token) := by
  rw [store, Rule.store]
  cases rules[place]? with
  | none => rfl
  | some rule => simp only [read_eq, Option.bind_eq_bind, Option.bind_some]

theorem fields_eq (rules : List Rule) (expected : Nat) (payload : List Char) :
    fields rules expected payload =
      some (Rule.storeAll rules (Token.all (some expected) payload)) := by
  have hstep : storeCut rules =
      fun record s => pure (Rule.store rules record s.2 (Token.cut s.1)) := by
    funext record s
    rw [storeCut, cut_eq, Option.bind_eq_bind, Option.bind_some, store_eq]
    rfl
  rw [fields, hstep, List.foldlM_pure, Rule.storeAll, Token.all, List.foldl_map]
  rfl

theorem foldlM_push (segments : List (List Char)) {amperes : List Int}
    (h : amperes.length ≤ Selectable.maxValues) :
    segments.foldlM push amperes =
      some (amperes ++ (segments.take (Selectable.maxValues - amperes.length)).map
        fun s => Token.int (Token.cut s)) := by
  induction segments generalizing amperes with
  | nil => rw [List.take_nil, List.map_nil, List.append_nil]; rfl
  | cons s segments ih =>
    -- a full list takes no more of the rest, and any other has room for one less behind this one
    rw [List.foldlM_cons, push, cut_eq]
    simp only [Option.bind_eq_bind, Option.bind_some]
    split
    · next hfull =>
      rw [Option.bind_some, ih h, Nat.sub_eq_zero_of_le hfull, List.take_zero, List.take_zero]
    · next hroom =>
      have hlength : (amperes ++ [Token.int (Utf8.take Token.maxSize s)]).length =
          amperes.length + 1 := by
        rw [List.length_append, List.length_singleton]
      rw [int_eq, Option.bind_some, Option.bind_some, ih (by omega), hlength,
        ← Nat.sub_add_cancel (Nat.sub_pos_of_lt (Nat.not_le.mp hroom)), List.take_succ_cons,
        Nat.sub_sub, List.append_assoc]
      rfl

def places (q : Query) : Nat :=
  (Response.layout? q).elim 0 fun l => l.widths.length

def numberAt (payload : List Char) (start count : Nat) : Option Reading := do
  let n ← int (Utf8.slice start count payload)
  some (.number n)

def readings (q : Query) (payload : List Char) : Option (List Reading) :=
  match q with
  | .protocolId => [(0, 2)].mapM fun f => numberAt payload f.1 f.2
  | .currentTime =>
    [(0, 4), (4, 2), (6, 2), (8, 2), (10, 2), (12, 2)].mapM fun f => numberAt payload f.1 f.2
  | .totalGenerated | .yearGenerated | .monthGenerated | .dayGenerated => do
    let n ← leadingInt (Utf8.slice 0 8 payload)
    some [.number n]
  | .seriesNumber => do
    let length ← int (Utf8.slice 0 2 payload)
    let id := Utf8.slice 2 (min length.toNat maxSerialSize) payload
    some [.number length, .text (String.ofList id)]
  | .workingMode => do
    let mode ← int (Utf8.slice 0 2 payload)
    some [.state mode]
  | .maxChargingCurrents | .maxAcChargingCurrents => do
    let amperes ← (Token.segments payload).foldlM push []
    some (amperes.map .number)
  | q => fields (Response.rules q) (places q) payload

def ofFrame (q : Query) (data : List UInt8) (size : Nat) :
    Option (Except Failure (List Reading)) := do
  match ← querySpan data size with
  | .error failure => some (.error failure)
  | .ok span => do
    let text ← payload data span
    let values ← readings q text
    some (.ok values)

theorem mapM_numberAt (payload : List Char) (places : List (Nat × Nat)) :
    places.mapM (fun f => numberAt payload f.1 f.2) =
      some (places.map fun f => .number (CurrentTime.field payload f.1 f.2)) := by
  have hread : (fun f : Nat × Nat => numberAt payload f.1 f.2) =
      fun f => pure (Reading.number (CurrentTime.field payload f.1 f.2)) := by
    funext f
    rw [numberAt, int_eq]
    rfl
  rw [hread, List.mapM_pure]
  rfl

theorem readings_eq (q : Query) (payload : List Char) :
    readings q payload = some (Response.decode q payload).readings := by
  cases hl : Response.layout? q with
  | some l =>
    have hlist : readings q payload = fields (Response.rules q) l.widths.length payload := by
      cases q <;> cases hl <;> rfl
    rw [hlist, fields_eq, Response.readings_decode hl,
      Rule.storeAll_all (Response.led_rules q) (Response.length_rules_le hl)]
  | none =>
    cases q with
    | protocolId | currentTime => exact mapM_numberAt payload _
    | totalGenerated | yearGenerated | monthGenerated | dayGenerated =>
      rw [readings, leadingInt_eq]; rfl
    | seriesNumber | workingMode => rw [readings, int_eq]; rfl
    | maxChargingCurrents | maxAcChargingCurrents =>
      rw [readings, foldlM_push _ (Nat.zero_le _)]; rfl
    | cpuVersion | ratedInformation | generalStatus | faultsWarnings | flags | defaults
    | parallelRatedInformation | parallelGeneralStatus | acChargeTime | acSupplyTime => cases hl

theorem ofFrame_eq (q : Query) (data : List UInt8) (size : Nat) :
    ofFrame q data size = some ((Response.ofFrame q data size).map Response.readings) := by
  rw [ofFrame, querySpan_eq, Response.ofFrame, Response.payloadOf]
  cases Envelope.querySpan data size with
  | error failure => rfl
  | ok span =>
    simp only [payload_eq, readings_eq, Option.bind_eq_bind, Option.bind_some]
    rfl

end Guarded

namespace Response

open Envelope

theorem query_decode (q : Query) (payload : List Char) : (decode q payload).query = q := by
  cases q <;> rfl

/-- No refusal of an envelope is anything but a malformed reply. -/
theorem exists_fault_of_querySpan {data : List UInt8} {size : Nat} {failure : Failure}
    (h : querySpan data size = .error failure) : ∃ fault, failure = .reply fault := by
  simp only [querySpan] at h
  repeat' split at h
  all_goals first | exact ⟨_, (Except.error.inj h).symm⟩ | cases h

/-- Whatever has been received, reading it takes no step outside of a buffer, inside a character or
past what a number can hold. It is refused as malformed, or it is the record of the query, with
every value within its bounds. -/
theorem frame_read_without_fault (q : Query) (data : List UInt8) (size : Nat) :
    Guarded.ofFrame q data size = some ((ofFrame q data size).map readings) ∧
      ((∃ fault, ofFrame q data size = .error (.reply fault)) ∨
        ∃ s r, querySpan data size = .ok s ∧ ofFrame q data size = .ok r ∧ r.query = q ∧
          r.WithinBounds (payload data s) ∧ ∀ v ∈ r.readings, v.Within (payload data s)) := by
  refine ⟨Guarded.ofFrame_eq q data size, ?_⟩
  cases hspan : querySpan data size with
  | error failure =>
    obtain ⟨fault, rfl⟩ := exists_fault_of_querySpan hspan
    exact .inl ⟨fault, by rw [ofFrame, payloadOf, hspan]; rfl⟩
  | ok s =>
    exact .inr ⟨s, _, rfl, ofFrame_of_span q hspan, query_decode q _, withinBounds_decode _ q,
      within_of_mem_readings _ q⟩

end Response
end HybridInverter
