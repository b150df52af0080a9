import HybridInverter.Proofs.Response.Token
import HybridInverter.Proofs.Text.Lossy
import HybridInverter.Response.Basic

/-!
Lists read segment by segment. Each field has a rule of its own for the token at its place; only a
serial number looks at the number in front of it. Storing the tokens that arrive, one after the
other, into a record of blanks comes to the same as applying every rule to its segment of the bytes
of the payload.
-/
namespace HybridInverter

namespace Token

/-- What stands between two commas at a place; a place without one counts as empty. -/
def segment (bytes : List UInt8) (place : Nat) : List UInt8 :=
  (bytes.splitOn Utf8.comma).getD place []

/-- What counts of a segment, read by itself. -/
def ofBytes (bytes : List UInt8) (place : Nat) : List Char :=
  cut (Utf8.decode (segment bytes place))

end Token

/-- How a field reads its token. -/
inductive Rule where
  | number
  | state
  | one
  | positive
  /-- A text of at most so many bytes. -/
  | text (most : Nat)
  | clock
  /-- A text as long as the number in front of it says. -/
  | serial
  deriving DecidableEq

namespace Rule

/-- What a field holds before anything has been stored. -/
def blank : Rule → Reading
  | .number => .number 0
  | .state => .state 0
  | .one | .positive => .switch false
  | .text _ | .serial => .text ""
  | .clock => .clock 0 0

/-- What a field holds once its token has been stored; `length` is the number in front. -/
def read (length : Int) (token : List Char) : Rule → Reading
  | .number => .number (Token.int token)
  | .state => .state (leadingInt token)
  | .one => .switch (Token.isOne token)
  | .positive => .switch (Token.isPositive token)
  | .text most => .text (Token.text most token)
  | .clock => .clock (TimeBucket.hour token) (TimeBucket.minute token)
  | .serial => .text (Token.text (min length.toNat maxSerialSize) token)

theorem read_nil (length : Int) (rule : Rule) : rule.read length [] = rule.blank := by
  cases rule <;> rfl

theorem read_of_ne_serial {rule : Rule} (h : rule ≠ .serial) (length length' : Int)
    (token : List Char) : rule.read length token = rule.read length' token := by
  cases rule <;> first | rfl | exact absurd rfl h

/-- Every serial number has a number in front of it. -/
def Led (rules : List Rule) : Prop :=
  ∀ place < rules.length, rules[place]? = some .serial →
    0 < place ∧ rules[place - 1]? = some .number

instance (rules : List Rule) : Decidable (Led rules) :=
  inferInstanceAs (Decidable (∀ _ < _, _))

def readFrom (t : Nat → List Char) (place : Nat) : List Rule → List Reading
  | [] => []
  | rule :: rules =>
    rule.read (Token.int (t (place - 1))) (t place) :: readFrom t (place + 1) rules

def readAll (rules : List Rule) (t : Nat → List Char) : List Reading :=
  readFrom t 0 rules

theorem getElem?_readFrom (t : Nat → List Char) (place : Nat) (rules : List Rule) (i : Nat) :
    (readFrom t place rules)[i]? = rules[i]?.map fun rule =>
      rule.read (Token.int (t (place + i - 1))) (t (place + i)) := by
  induction rules generalizing place i with
  | nil => rfl
  | cons rule rules ih =>
    cases i with
    | zero => rfl
    | succ i => rw [readFrom, List.getElem?_cons_succ, List.getElem?_cons_succ, ih,
        Nat.add_assoc, Nat.add_comm 1 i]

theorem getElem?_readAll (rules : List Rule) (t : Nat → List Char) (i : Nat) :
    (readAll rules t)[i]? =
      rules[i]?.map fun rule => rule.read (Token.int (t (i - 1))) (t i) := by
  rw [readAll, getElem?_readFrom, Nat.zero_add]

def lengthBefore (record : List Reading) (place : Nat) : Int :=
  match record[place - 1]? with
  | some (.number n) => n
  | _ => 0

def store (rules : List Rule) (record : List Reading) (place : Nat) (token : List Char) :
    List Reading :=
  match rules[place]? with
  | some rule => record.set place (rule.read (lengthBefore record place) token)
  | none => record

def storeAll (rules : List Rule) (tokens : List (Nat × List Char)) : List Reading :=
  tokens.foldl (fun record t => store rules record t.1 t.2) (rules.map blank)

/-- The record when the tokens in front of a place have been stored. -/
def storedBefore (rules : List Rule) (t : Nat → List Char) (place : Nat) : List Reading :=
  rules.mapIdx fun i rule =>
    if i < place then rule.read (Token.int (t (i - 1))) (t i) else rule.blank

variable {rules : List Rule} {t : Nat → List Char} {place : Nat}

theorem getElem?_storedBefore (i : Nat) :
    (storedBefore rules t place)[i]? = rules[i]?.map fun rule =>
      if i < place then rule.read (Token.int (t (i - 1))) (t i) else rule.blank := by
  rw [storedBefore, List.getElem?_mapIdx]

theorem storedBefore_zero : storedBefore rules t 0 = rules.map blank := by
  refine List.ext_getElem? fun i => ?_
  rw [getElem?_storedBefore, List.getElem?_map]
  rfl

theorem store_of_length_le (h : rules.length ≤ place) (record : List Reading) (token : List Char) :
    store rules record place token = record := by
  rw [store, List.getElem?_eq_none h]

theorem lengthBefore_storedBefore (hplace : 0 < place) (h : rules[place - 1]? = some .number) :
    lengthBefore (storedBefore rules t place) place = Token.int (t (place - 1)) := by
  rw [lengthBefore, getElem?_storedBefore, h, Option.map_some, if_pos (by omega)]
  rfl

theorem store_storedBefore (hled : Led rules) :
    store rules (storedBefore rules t place) place (t place) =
      storedBefore rules t (place + 1) := by
  cases hrule : rules[place]? with
  | none =>
    have hlength := List.getElem?_eq_none_iff.mp hrule
    rw [store_of_length_le hlength]
    refine List.ext_getElem? fun i => ?_
    rw [getElem?_storedBefore, getElem?_storedBefore]
    by_cases hi : i < rules.length
    · have hbefore : i < place := Nat.lt_of_lt_of_le hi hlength
      simp only [if_pos hbefore, if_pos (Nat.lt_succ_of_lt hbefore)]
    · rw [List.getElem?_eq_none (Nat.le_of_not_lt hi)]
      rfl
  | some rule =>
    have hplace := (List.getElem?_eq_some_iff.mp hrule).1
    have hread : rule.read (lengthBefore (storedBefore rules t place) place) (t place) =
        rule.read (Token.int (t (place - 1))) (t place) := by
      by_cases hserial : rule = .serial
      · obtain ⟨hpos, hnumber⟩ := hled place hplace (hserial ▸ hrule)
        rw [lengthBefore_storedBefore hpos hnumber]
      · exact read_of_ne_serial hserial _ _ _
    refine List.ext_getElem? fun i => ?_
    rw [store, hrule]
    simp only
    rw [hread, List.getElem?_set, getElem?_storedBefore, getElem?_storedBefore]
    by_cases hi : place = i
    · subst hi
      rw [hrule]
      simp [storedBefore, hplace]
    · have hbefore : i < place ↔ i < place + 1 := by omega
      simp only [if_neg hi, hbefore]

/-- The run of the loop: tokens from a place on, stored behind those in front of it. -/
theorem foldl_store (hled : Led rules) {segments : List (List Char)}
    (h : ∀ i (s : List Char), segments[i]? = some s → Token.cut s = t (place + i)) :
    (segments.zipIdx place).foldl (fun record s => store rules record s.2 (Token.cut s.1))
      (storedBefore rules t place) = storedBefore rules t (place + segments.length) := by
  induction segments generalizing place with
  | nil => rfl
  | cons s segments ih =>
    have hfirst : Token.cut s = t place := h 0 s rfl
    have hrest : ∀ i (s' : List Char), segments[i]? = some s' →
        Token.cut s' = t (place + 1 + i) := by
      intro i s' hs
      rw [h (i + 1) s' hs, Nat.add_assoc, Nat.add_comm 1 i]
    rw [List.zipIdx_cons, List.foldl_cons, hfirst, store_storedBefore hled, ih hrest,
      List.length_cons, Nat.add_assoc, Nat.add_comm 1]

/-- Fields that no token has reached hold what an empty one would leave in them. -/
theorem storedBefore_eq_readAll (h : ∀ i, place ≤ i → t i = []) :
    storedBefore rules t place = readAll rules t := by
  refine List.ext_getElem? fun i => ?_
  rw [getElem?_storedBefore, getElem?_readAll]
  by_cases hi : i < place
  · simp only [if_pos hi]
  · simp only [if_neg hi, h i (Nat.le_of_not_lt hi), read_nil]

theorem storeAll_all (hled : Led rules) {expected : Nat} (hexpected : rules.length ≤ expected)
    (payload : List Char) :
    storeAll rules (Token.all (some expected) payload) = readAll rules (Token.get payload) := by
  have hstored : ∀ (record : List Reading) (s : List Char × Nat),
      (if Option.all (s.2 < ·) (some expected) then store rules record s.2 (Token.cut s.1)
        else record) = store rules record s.2 (Token.cut s.1) := by
    intro record s
    simp only [Option.all_some, decide_eq_true_eq]
    split
    · rfl
    · rw [store_of_length_le (by omega)]
  rw [storeAll, Token.all, List.foldl_map, List.foldl_filter]
  simp only [hstored]
  rw [← storedBefore_zero, foldl_store hled, Nat.zero_add]
  · refine storedBefore_eq_readAll fun i hi => ?_
    rw [Token.get, List.getD_eq_getElem?_getD, List.getElem?_eq_none hi]
    rfl
  · intro i s hs
    rw [Token.get, Nat.zero_add, List.getD_eq_getElem?_getD, hs]
    rfl

end Rule

namespace Envelope

def bytes (data : List UInt8) (s : Span) : List UInt8 :=
  (data.take s.stop).drop s.start

end Envelope

namespace Response

/-- How the fields of a list are read, in the order in which the device sends them. -/
def rules : Query → List Rule
  | .cpuVersion => List.replicate 3 (.text 5)
  | .ratedInformation =>
    List.replicate 13 .number ++ [.state, .number, .number, .state, .state, .state, .number] ++
      List.replicate 4 .state ++ [.text 1]
  | .generalStatus =>
    List.replicate 20 .number ++
      [.one, .state, .state, .one, .state, .state, .state, .number]
  | .faultsWarnings => .number :: List.replicate 16 .positive
  | .flags => List.replicate 8 .positive
  | .defaults =>
    [.number, .number, .state] ++ List.replicate 7 .number ++ List.replicate 6 .state ++
      List.replicate 8 .positive
  | .parallelRatedInformation => [.state, .number, .serial, .state, .number, .number, .state]
  | .parallelGeneralStatus =>
    [.state, .state] ++ List.replicate 20 .number ++
      [.state, .state, .one, .state, .state, .state, .number]
  | .acChargeTime | .acSupplyTime => [.clock, .clock]
  | _ => []

theorem led_rules (q : Query) : Rule.Led (rules q) := by
  cases q <;> decide

variable {q : Query} {l : Layout}

theorem length_rules_le (hl : layout? q = some l) : (rules q).length ≤ l.widths.length := by
  cases q <;> cases hl <;> decide

/-- Every field of a list is read by its rule. -/
theorem readings_decode (hl : layout? q = some l) (payload : List Char) :
    (decode q payload).readings = Rule.readAll (rules q) (Token.get payload) := by
  cases q <;> cases hl <;> rfl

open Envelope (bytes)
open Token (ofBytes)

variable {data : List UInt8} {size : Nat} {s : Envelope.Span}

theorem ofFrame_of_span (q : Query) (hs : Envelope.querySpan data size = .ok s) :
    ofFrame q data size = .ok (decode q (Utf8.decode (bytes data s))) := by
  rw [ofFrame, payloadOf, hs]
  rfl

end Response
end HybridInverter
