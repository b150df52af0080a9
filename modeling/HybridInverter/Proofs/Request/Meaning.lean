import HybridInverter.Proofs.Request.Fit

/-!
What arguments mean, and that their spelling tells it. The meaning of an argument is the value that
its check has found; each encoding writes a text from which that value can be read again, so that
arguments spelled alike mean the same.
-/
namespace HybridInverter

open Encoding
open Numeral (field)

/-- What the arguments that a demand looks at stand for. -/
inductive Meaning where
  | number (n : Nat)
  | date (d : Date)
  | clock (hour minute second : Nat)
  | time (t : TimeOfDay)
  | switch (on : Bool)
  | flag (f : Flag)
  | choice (n : Int)
  | id (digits : String)

namespace Demand

/-- The value that the check has found, if it has found one. Decimals are left out. -/
def meaning? (d : Demand) (args : List String) : Option Meaning :=
  match d, args with
  | .year, [a] => (Check.year a).toOption.map .number
  | .month, [a] => (Check.month a).toOption.map .number
  | .date, [y, m, d] => (Check.date y m d).toOption.map .date
  | .clock, [h, m, s] => (Check.clock h m s).toOption.map fun v => .clock v.1 v.2.1 v.2.2
  | .timeOfDay what, [a] => (Check.timeOfDay what a).toOption.map .time
  | .parallelId, [a] => (Check.parallelId a).toOption.map .number
  | .amperes, [a] => (Check.amperes a).toOption.map .number
  | .zeroOrOne what, [a] => (Check.zeroOrOne what a).toOption.map .switch
  | .flag, [a] => (Flag.ofKey? a).map .flag
  | .frequency, [a] => (Check.frequency a).toOption.map .number
  | .ratedVoltage, [a] => (Check.ratedVoltage a).toOption.map .number
  | .choice table, [a] => (Coded.ofChoice table a).toOption.map fun c => .choice c.raw
  | .solarId, [a] => (Check.solarId a).toOption.map fun _ => .id a
  | _, _ => none

def meanings? : List Demand → List String → Option (List Meaning)
  | [], _ => some []
  | d :: rest, args => do
    let first ← d.meaning? (args.take d.arity)
    let others ← meanings? rest (args.drop d.arity)
    return first :: others

theorem meanings?_cons {d : Demand} {ds : List Demand} {args : List String} {m : Meaning}
    {ms : List Meaning} (hfirst : d.meaning? (args.take d.arity) = some m)
    (hothers : meanings? ds (args.drop d.arity) = some ms) :
    meanings? (d :: ds) args = some (m :: ms) := by
  simp [meanings?, hfirst, hothers]

theorem of_meanings?_one {d : Demand} {args : List String} {ms : List Meaning}
    (h : meanings? [d] args = some ms) : ∃ m, d.meaning? (args.take d.arity) = some m ∧ ms = [m] := by
  simp only [meanings?, Option.bind_eq_bind, Option.bind_eq_some_iff] at h
  obtain ⟨m, hm, _, hnil, h⟩ := h
  obtain rfl := Option.some.inj hnil
  exact ⟨m, hm, (Option.some.inj h).symm⟩

end Demand

/-- Whatever satisfies the demands is spelled as texts that tell its meaning. -/
def Tells (ds : List Demand) (es : List Encoding) : Prop :=
  ∃ tell : List String → List Meaning, ∀ args r, Demand.resolveAll ds args = .ok r →
    ∃ texts, Spelled es r texts ∧ Demand.meanings? ds args = some (tell texts)

namespace Tells

theorem nil : Tells [] [] := by
  refine ⟨fun _ => [], fun args r hr => ⟨[], ?_, rfl⟩⟩
  obtain rfl := Except.ok.inj hr
  exact .nil

theorem cons {d : Demand} {ds : List Demand} {es es' : List Encoding} (h : Tells [d] es)
    (h' : Tells ds es') : Tells (d :: ds) (es ++ es') := by
  obtain ⟨tell, htell⟩ := h
  obtain ⟨tell', htell'⟩ := h'
  refine ⟨fun texts => tell (texts.take es.length) ++ tell' (texts.drop es.length),
    fun args r hr => ?_⟩
  obtain ⟨first, others, rfl, hfirst, hothers⟩ := Demand.of_resolveAll_cons hr
  have hone : Demand.resolveAll [d] args = .ok first := by
    simp only [Demand.resolveAll, hfirst]
    exact congrArg Except.ok (List.append_nil first)
  obtain ⟨texts, hspelled, hmeanings⟩ := htell args first hone
  obtain ⟨texts', hspelled', hmeanings'⟩ := htell' _ others hothers
  obtain ⟨m, hm, htold⟩ := Demand.of_meanings?_one hmeanings
  refine ⟨texts ++ texts', hspelled.append hspelled', ?_⟩
  rw [Demand.meanings?_cons hm hmeanings', ← hspelled.length_eq]
  simp only [List.take_left', List.drop_left', htold, List.singleton_append]

theorem of_resolve_one {d : Demand} {e : Encoding} (harity : d.arity = 1) (he : e.arity = 1)
    (tell : String → Meaning)
    (h : ∀ arg r, d.resolve [arg] = .ok r → ∃ arg' text, r = [arg'] ∧
      (∀ state, e.encode arg' state = .ok text) ∧ d.meaning? [arg] = some (tell text)) :
    Tells [d] [e] := by
  refine ⟨fun texts => texts.map tell, fun args r hr => ?_⟩
  obtain ⟨first, others, rfl, hfirst, hothers⟩ := Demand.of_resolveAll_cons hr
  obtain rfl := Except.ok.inj hothers
  rw [harity] at hfirst
  cases args with
  | nil =>
    rw [List.take_nil, Demand.resolve_nil] at hfirst
    cases hfirst
  | cons arg args =>
    obtain ⟨arg', text, rfl, htext, hmeaning⟩ := h arg first hfirst
    refine ⟨[text], .cons he htext .nil, ?_⟩
    refine Demand.meanings?_cons ?_ rfl
    rw [harity]
    exact hmeaning

end Tells

def shown (text : String) : Nat :=
  Numeral.value text.toList

@[simp] theorem shown_field (width n : Nat) : shown (field width n) = n := by
  simp [shown, field]

/-- What passes the check is written as a text that its value can be read from. -/
def Reveals {α : Type} (check : String → Except UsageFault α) (e : Encoding) : Prop :=
  e.arity = 1 ∧ ∃ read : String → α, ∀ arg v, check arg = .ok v →
    ∃ text, (∀ state, e.encode arg state = .ok text) ∧ read text = v

namespace Reveals

theorem year : Reveals Check.year .raw :=
  ⟨rfl, shown, fun arg _ h => ⟨arg, fun _ => rfl, (Check.of_year h).2.2.1.symm⟩⟩

theorem month : Reveals Check.month (.int 2) :=
  ⟨rfl, shown, fun _ n h => ⟨_, Check.encode_month h, shown_field 2 n⟩⟩

theorem day : Reveals Check.day (.int 2) :=
  ⟨rfl, shown, fun _ n h => ⟨_, Check.encode_day h, shown_field 2 n⟩⟩

theorem frequency : Reveals Check.frequency (.int 2) :=
  ⟨rfl, shown, fun _ n h => ⟨_, Check.encode_frequency h, shown_field 2 n⟩⟩

theorem amperes : Reveals Check.amperes (.int 3) := by
  refine ⟨rfl, shown, fun arg n h => ?_⟩
  obtain ⟨hnumeric, rfl⟩ := Check.numeric_of_number h
  exact ⟨_, encode_int (hnumeric.readInt_eq (by decide)) 3, shown_field 3 _⟩

theorem ratedVoltage : Reveals Check.ratedVoltage (.timesTen 4) := by
  refine ⟨rfl, fun text => shown text / 10, fun arg n h => ⟨_, Check.encode_ratedVoltage h, ?_⟩⟩
  dsimp only
  rw [shown_field, Nat.mul_div_cancel n (by decide)]

theorem parallelId_number : Reveals Check.parallelId .number := by
  refine ⟨rfl, shown, fun arg n h => ?_⟩
  obtain ⟨hnumeric, rfl⟩ := Check.numeric_of_number h
  exact ⟨_, encode_number (hnumeric.readInt_eq (by decide)), shown_field 0 _⟩

theorem parallelId_char : Reveals Check.parallelId .char := by
  refine ⟨rfl, shown, fun arg n h => ?_⟩
  obtain ⟨hnumeric, rfl⟩ := Check.numeric_of_number h
  obtain ⟨c, harg, -⟩ := hnumeric.exists_eq_singleton
  exact ⟨String.singleton c, fun _ => by simp [encode, harg], by simp [shown, harg]⟩

theorem zeroOrOne (what : String) : Reveals (Check.zeroOrOne what) .raw := by
  refine ⟨rfl, fun text => text == "1", fun arg on h => ⟨arg, fun _ => rfl, ?_⟩⟩
  obtain rfl := Check.of_zeroOrOne h
  cases on <;> rfl

theorem timeOfDay (what : String) : Reveals (Check.timeOfDay what) .time := by
  refine ⟨rfl, fun text => ⟨Numeral.value (text.toList.take 2), Numeral.value (text.toList.drop 2)⟩,
    fun arg t h => ⟨_, Check.encode_timeOfDay h, ?_⟩⟩
  obtain ⟨-, -, -, -, hhour, -, -⟩ := Check.of_timeOfDay h
  have hlength : (field 2 t.hour).toList.length = 2 := by
    rw [field, String.toList_ofList, Numeral.length_padded_two (by omega) (by omega)]
  have hhour' : Numeral.value (field 2 t.hour).toList = t.hour := shown_field 2 t.hour
  have hminute' : Numeral.value (field 2 t.minute).toList = t.minute := shown_field 2 t.minute
  dsimp only
  rw [String.toList_append, List.take_left' hlength, List.drop_left' hlength, hhour', hminute']

end Reveals

namespace Tells

theorem of_reveals {α : Type} {check : String → Except UsageFault α} {d : Demand} {e : Encoding}
    (mean : α → Meaning) (harity : d.arity = 1)
    (hresolve : ∀ arg, d.resolve [arg] = Demand.keep [arg] (check arg))
    (hmeaning : ∀ arg, d.meaning? [arg] = (check arg).toOption.map mean) (h : Reveals check e) :
    Tells [d] [e] := by
  obtain ⟨he, read, hread⟩ := h
  refine of_resolve_one harity he (fun text => mean (read text)) fun arg r hr => ?_
  rw [hresolve] at hr
  obtain ⟨rfl, v, hv⟩ := Demand.of_keep hr
  obtain ⟨text, htext, rfl⟩ := hread arg v hv
  refine ⟨arg, text, rfl, htext, ?_⟩
  rw [hmeaning, hv]
  rfl

theorem year : Tells [.year] [.raw] :=
  of_reveals .number rfl (fun _ => rfl) (fun _ => rfl) .year

theorem month : Tells [.month] [.int 2] :=
  of_reveals .number rfl (fun _ => rfl) (fun _ => rfl) .month

theorem timeOfDay (what : String) : Tells [.timeOfDay what] [.time] :=
  of_reveals .time rfl (fun _ => rfl) (fun _ => rfl) (.timeOfDay what)

theorem parallelId_number : Tells [.parallelId] [.number] :=
  of_reveals .number rfl (fun _ => rfl) (fun _ => rfl) .parallelId_number

theorem parallelId_char : Tells [.parallelId] [.char] :=
  of_reveals .number rfl (fun _ => rfl) (fun _ => rfl) .parallelId_char

theorem amperes : Tells [.amperes] [.int 3] :=
  of_reveals .number rfl (fun _ => rfl) (fun _ => rfl) .amperes

theorem frequency : Tells [.frequency] [.int 2] :=
  of_reveals .number rfl (fun _ => rfl) (fun _ => rfl) .frequency

theorem ratedVoltage : Tells [.ratedVoltage] [.timesTen 4] :=
  of_reveals .number rfl (fun _ => rfl) (fun _ => rfl) .ratedVoltage

theorem zeroOrOne (what : String) : Tells [.zeroOrOne what] [.raw] :=
  of_reveals .switch rfl (fun _ => rfl) (fun _ => rfl) (.zeroOrOne what)

/-- The digit of a choice is its place among the names. -/
theorem choice {table : CodeTable} (h : table.choices.length ≤ 10) :
    Tells [.choice table] [.char] := by
  refine of_resolve_one rfl rfl (fun text => .choice (shown text)) fun arg r hr => ?_
  obtain ⟨n, hn, rfl, hchoice⟩ := Demand.of_resolve_choice hr
  obtain ⟨c, hc⟩ := List.length_eq_one_iff.mp
    (Numeral.length_decimal_eq_one (Nat.lt_of_lt_of_le hn h))
  have hshown : shown (String.singleton c) = n := by
    rw [shown, String.toList_singleton, ← hc, Numeral.value_decimal]
  refine ⟨_, String.singleton c, rfl, fun _ => ?_, ?_⟩
  · simp [encode, Coded.digit, Numeral.signed, hc]
  · simp only [Demand.meaning?, hchoice, hshown]
    rfl

theorem solarId : Tells [.solarId] [.solarId] := by
  refine of_resolve_one rfl rfl
    (fun text => .id (String.ofList ((text.toList.drop 2).take
      (Numeral.value (text.toList.take 2))))) fun arg r hr => ?_
  obtain ⟨rfl, v, hv⟩ := Demand.of_keep hr
  refine ⟨arg, _, rfl, fun _ => rfl, ?_⟩
  have hmost : arg.toList.length ≤ 20 := (Check.of_solarId hv).length_le
  have hlength : (Numeral.padded 2 (arg.toList.length : Nat)).length = 2 :=
    Numeral.length_padded_two (by omega) (by omega)
  have hvalue : Numeral.value (Numeral.padded 2 (arg.toList.length : Nat)) = arg.toList.length := by
    simp
  rw [Check.encodeSolarId_of_solarId hv, List.append_assoc, List.take_left' hlength,
    List.drop_left' hlength, hvalue, List.take_left, String.ofList_toList]
  simp only [Demand.meaning?, hv]
  rfl

theorem date {e : Encoding} (hyear : Reveals Check.year e) :
    Tells [.date] [e, .int 2, .int 2] := by
  obtain ⟨he, read, hread⟩ := hyear
  refine ⟨fun texts => [.date ⟨read (texts.getD 0 ""), shown (texts.getD 1 ""),
    shown (texts.getD 2 "")⟩], fun args r hr => ?_⟩
  obtain ⟨first, others, rfl, hfirst, hothers⟩ := Demand.of_resolveAll_cons hr
  obtain rfl := Except.ok.inj hothers
  obtain ⟨y, m, d, v, hargs, rfl, hv⟩ := Demand.of_resolve_date hfirst
  obtain ⟨hy, hm, hd⟩ := Check.of_date hv
  obtain ⟨text, htext, htold⟩ := hread y v.year hy
  refine ⟨_, .cons he htext (.cons rfl (Check.encode_month hm)
    (.cons rfl (Check.encode_day hd) .nil)), ?_⟩
  have hmeaning : Demand.meaning? .date [y, m, d] = some (.date v) := by
    simp only [Demand.meaning?, hv]
    rfl
  simp only [List.getD_cons_zero, List.getD_cons_succ, shown_field, htold]
  exact Demand.meanings?_cons (hargs ▸ hmeaning) rfl

theorem clock : Tells [.clock] [.int 2, .int 2, .int 2] := by
  refine ⟨fun texts => [.clock (shown (texts.getD 0 "")) (shown (texts.getD 1 ""))
    (shown (texts.getD 2 ""))], fun args r hr => ?_⟩
  obtain ⟨first, others, rfl, hfirst, hothers⟩ := Demand.of_resolveAll_cons hr
  obtain rfl := Except.ok.inj hothers
  obtain ⟨a, b, c, v, hargs, rfl, hv⟩ := Demand.of_resolve_clock hfirst
  obtain ⟨⟨ha, hb, hc⟩, rfl⟩ := Check.of_clock hv
  refine ⟨_, .cons rfl (Check.encode_two ha) (.cons rfl (Check.encode_two hb)
    (.cons rfl (Check.encode_two hc) .nil)), ?_⟩
  have hmeaning : Demand.meaning? .clock [a, b, c] = some (.clock (Numeral.value a.toList)
      (Numeral.value b.toList) (Numeral.value c.toList)) := by
    simp only [Demand.meaning?, hv]
    rfl
  simp only [List.getD_cons_zero, List.getD_cons_succ, shown_field]
  exact Demand.meanings?_cons (hargs ▸ hmeaning) rfl

theorem find?_code : ∀ f ∈ Flag.all, Flag.all.find? (fun g => g.code == f.code) = some f := by
  decide

def toldBy (text : String) : List Meaning :=
  match text.toList with
  | [state, code] =>
    match Flag.all.find? fun f => f.code == code with
    | some f => [.flag f, .switch (state == 'E')]
    | none => []
  | _ => []

theorem toldBy_toggle {f : Flag} (hf : f ∈ Flag.all) (on : Bool) :
    toldBy (encodeToggle f.key (if on then "1" else "0")) = [.flag f, .switch on] := by
  rw [encodeToggle, Flag.ofKey?_key f hf]
  cases on <;> simp [toldBy, find?_code f hf]

theorem flag (what : String) : Tells [.flag, .zeroOrOne what] [.toggle] := by
  refine ⟨fun texts => toldBy (texts.getD 0 ""), fun args r hr => ?_⟩
  obtain ⟨first, others, rfl, hfirst, hothers⟩ := Demand.of_resolveAll_cons hr
  obtain ⟨second, rest, rfl, hsecond, hrest⟩ := Demand.of_resolveAll_cons hothers
  obtain rfl := Except.ok.inj hrest
  obtain ⟨a, f, hf, hargs, rfl, hfind⟩ := Demand.of_resolve_flag hfirst
  match hdrop : args.drop 1, hsecond with
  | state :: rest, hsecond =>
    obtain ⟨rfl, on, hon⟩ := Demand.of_keep hsecond
    obtain rfl := Check.of_zeroOrOne hon
    have hflag : Demand.flag.meaning? (args.take Demand.flag.arity) = some (.flag f) := by
      rw [hargs, Demand.meaning?, hfind]
      rfl
    have hswitch : (Demand.zeroOrOne what).meaning? ((args.drop 1).take 1) = some (.switch on) := by
      rw [hdrop, List.take_succ_cons, List.take_zero, Demand.meaning?, hon]
      rfl
    refine ⟨_, .toggle .nil, ?_⟩
    dsimp only
    rw [List.getD_cons_zero, toldBy_toggle hf on]
    exact Demand.meanings?_cons hflag (Demand.meanings?_cons hswitch rfl)
  | [], hsecond => cases hsecond

end Tells

namespace Command

end Command
end HybridInverter
