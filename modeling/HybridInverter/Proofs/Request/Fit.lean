import HybridInverter.Proofs.Command.Payload
import HybridInverter.Proofs.Request.Check
import HybridInverter.Request.Basic

/-!
Checked arguments fit their encodings. A text is checked by one set of rules and encoded by another;
what is written depends on the value that the check has found, and for each demand and the encodings
behind it, what the demand lets through is what the encodings can write, in parts of the right form.
-/
namespace HybridInverter

namespace Check

open Encoding
open Numeral (field)

variable {text : String} {n : Nat}

theorem encode_two (h : Numeric 2 text) (state : String) :
    encode (.int 2) text state = .ok (field 2 (Numeral.value text.toList : Nat)) :=
  encode_int (h.readInt_eq (by decide)) 2 state

theorem encode_shortYear (h : year text = .ok n) (state : String) :
    encode .yearFrom2000 text state = .ok (field 2 (n - 2000 : Nat)) := by
  obtain ⟨hnumeric, -, rfl, hlow, hhigh⟩ := of_year h
  exact encode_yearFrom2000 (hnumeric.readInt_eq (by decide)) hlow hhigh state

theorem encode_month (h : month text = .ok n) (state : String) :
    encode (.int 2) text state = .ok (field 2 n) := by
  obtain ⟨hnumeric, rfl⟩ := of_month h
  exact encode_two hnumeric state

theorem encode_day (h : day text = .ok n) (state : String) :
    encode (.int 2) text state = .ok (field 2 n) := by
  obtain ⟨hnumeric, rfl⟩ := of_day h
  exact encode_two hnumeric state

theorem encode_timeOfDay {what : String} {t : TimeOfDay} (h : timeOfDay what text = .ok t)
    (state : String) :
    encode .time text state = .ok (field 2 t.hour ++ field 2 t.minute) := by
  obtain ⟨before, behind, hcut, hhour, -, hminute, -⟩ := of_timeOfDay h
  exact encode_time hcut hhour hminute state

theorem encode_ratedVoltage (h : ratedVoltage text = .ok n) (state : String) :
    encode (.timesTen 4) text state = .ok (field 4 (n * 10 : Nat)) := by
  obtain ⟨hread, hn⟩ := of_ratedVoltage h
  have hbound : n * 10 < Numeral.int64Bound := by
    rw [Numeral.int64Bound_eq]
    omega
  exact encode_timesTen hread hbound 4 state

theorem encode_frequency (h : frequency text = .ok n) (state : String) :
    encode (.int 2) text state = .ok (field 2 n) := by
  rcases of_frequency h with ⟨rfl, rfl⟩ | ⟨rfl, rfl⟩
  · exact encode_two (numeric_of_isNumeric (by decide)) state
  · exact encode_two (numeric_of_isNumeric (by decide)) state

theorem encodeSolarId_of_solarId {v : Unit} (h : solarId text = .ok v) :
    (encodeSolarId text).toList = Numeral.padded 2 (text.toList.length : Nat) ++ text.toList ++
      List.replicate (solarIdWidth - text.toList.length) '0' :=
  encodeSolarId_eq (of_solarId h).digits (of_solarId h).length_le

end Check

open Encoding

namespace Flag

theorem ofKey?_key : ∀ f ∈ all, ofKey? f.key = some f := by
  decide

theorem code_between : ∀ f ∈ all, (Form.between 'A' 'I').Matches [f.code] := by
  intro f hf
  refine .cons ?_ .nil
  revert f
  decide

end Flag

namespace Demand

theorem keep_eq_self {α : Type} {args : List String} {checked : Except UsageFault α} {v : α}
    (h : checked = .ok v) : keep args checked = .ok args := by
  rw [h]
  rfl

theorem of_keep {α : Type} {args r : List String} {checked : Except UsageFault α}
    (h : keep args checked = .ok r) : r = args ∧ ∃ v, checked = .ok v := by
  cases checked with
  | error fault => cases h
  | ok v => exact ⟨(Except.ok.inj h).symm, v, rfl⟩

theorem resolve_nil (d : Demand) : d.resolve [] = .error (.argument (.tooFew d.arity 0)) := by
  cases d <;> rfl

theorem of_resolve_date {args r : List String} (h : Demand.date.resolve args = .ok r) :
    ∃ y m d v, args = [y, m, d] ∧ r = [y, m, d] ∧ Check.date y m d = .ok v := by
  match args, h with
  | [y, m, d], h =>
    obtain ⟨rfl, v, hv⟩ := of_keep h
    exact ⟨y, m, d, v, rfl, rfl, hv⟩
  | [], h | [_], h | [_, _], h | _ :: _ :: _ :: _ :: _, h => cases h

theorem of_resolve_clock {args r : List String} (h : Demand.clock.resolve args = .ok r) :
    ∃ a b c v, args = [a, b, c] ∧ r = [a, b, c] ∧ Check.clock a b c = .ok v := by
  match args, h with
  | [a, b, c], h =>
    obtain ⟨rfl, v, hv⟩ := of_keep h
    exact ⟨a, b, c, v, rfl, rfl, hv⟩
  | [], h | [_], h | [_, _], h | _ :: _ :: _ :: _ :: _, h => cases h

theorem of_resolve_flag {args r : List String} (h : Demand.flag.resolve args = .ok r) :
    ∃ a, ∃ f ∈ Flag.all, args = [a] ∧ r = [f.key] ∧ Flag.ofKey? a = some f := by
  match args, h with
  | [a], h =>
    cases hfind : Flag.ofKey? a with
    | none => simp [Demand.resolve, Flag.ofKey, hfind, Except.map] at h
    | some f =>
      simp only [Demand.resolve, Flag.ofKey, hfind, Except.map, Except.ok.injEq] at h
      exact ⟨a, f, List.mem_of_find?_eq_some hfind, rfl, h.symm, hfind⟩
  | [], h | _ :: _ :: _, h => cases h

theorem of_resolve_choice {table : CodeTable} {arg : String} {r : List String}
    (h : (Demand.choice table).resolve [arg] = .ok r) :
    ∃ n < table.choices.length, r = [(⟨n⟩ : Coded table).digit] ∧
      Coded.ofChoice table arg = .ok ⟨n⟩ := by
  simp only [Demand.resolve, Coded.ofChoice] at h
  cases hn : table.choices.idxOf? arg with
  | none =>
    rw [hn] at h
    cases h
  | some n =>
    rw [hn] at h
    obtain ⟨hlt, -⟩ := List.findIdx?_eq_some_iff_getElem.mp hn
    exact ⟨n, hlt, (Except.ok.inj h).symm, by simp only [Coded.ofChoice, hn]⟩

theorem of_resolveAll_cons {d : Demand} {ds : List Demand} {args r : List String}
    (h : resolveAll (d :: ds) args = .ok r) :
    ∃ first others, r = first ++ others ∧ d.resolve (args.take d.arity) = .ok first ∧
      resolveAll ds (args.drop d.arity) = .ok others := by
  obtain ⟨first, hfirst, h⟩ := bind_eq_ok_iff.mp h
  obtain ⟨others, hothers, h⟩ := bind_eq_ok_iff.mp h
  exact ⟨first, others, (Except.ok.inj h).symm, hfirst, hothers⟩

theorem resolveAll_cons_eq_self {d : Demand} {ds : List Demand} {args : List String}
    (hfirst : d.resolve (args.take d.arity) = .ok (args.take d.arity))
    (hothers : resolveAll ds (args.drop d.arity) = .ok (args.drop d.arity)) :
    resolveAll (d :: ds) args = .ok args := by
  have hjoined : resolveAll (d :: ds) args = .ok (args.take d.arity ++ args.drop d.arity) := by
    rw [resolveAll, hfirst, hothers]
    rfl
  rwa [List.take_append_drop] at hjoined

/-- Demands that are satisfied together are satisfied one part after the other. -/
theorem of_resolveAll_append {ds ds' : List Demand} {args r : List String}
    (h : resolveAll (ds ++ ds') args = .ok r) :
    ∃ args' before behind, r = before ++ behind ∧ resolveAll ds args = .ok before ∧
      resolveAll ds' args' = .ok behind := by
  induction ds generalizing args r with
  | nil => exact ⟨args, [], r, rfl, rfl, h⟩
  | cons d ds ih =>
    obtain ⟨first, others, rfl, hfirst, hothers⟩ := of_resolveAll_cons h
    obtain ⟨args', before, behind, rfl, hbefore, hbehind⟩ := ih hothers
    refine ⟨args', first ++ before, behind, by simp, ?_, hbehind⟩
    simp only [resolveAll, hfirst, hbefore]
    rfl

end Demand

/-- Whatever satisfies the demands is written by the encodings, in parts of these forms. -/
def Fit (ds : List Demand) (es : List Encoding) (ps : List (Option Form)) : Prop :=
  ∀ args r, Demand.resolveAll ds args = .ok r → WritesAll es r ps

namespace Fit

theorem nil : Fit [] [] [] := by
  intro args r h
  obtain rfl := Except.ok.inj h
  exact .nil

theorem append {ds ds' : List Demand} {es es' : List Encoding} {ps ps' : List (Option Form)}
    (h : Fit ds es ps) (h' : Fit ds' es' ps') : Fit (ds ++ ds') (es ++ es') (ps ++ ps') := by
  intro args r hr
  obtain ⟨args', before, behind, rfl, hbefore, hbehind⟩ := Demand.of_resolveAll_append hr
  exact (h args before hbefore).append (h' args' behind hbehind)

theorem of_resolve {d : Demand} {es : List Encoding} {ps : List (Option Form)}
    (h : ∀ (args r : List String), d.resolve (args.take d.arity) = .ok r → WritesAll es r ps) :
    Fit [d] es ps := by
  intro args r hr
  obtain ⟨first, others, rfl, hfirst, hothers⟩ := Demand.of_resolveAll_cons hr
  obtain rfl := Except.ok.inj hothers
  rw [List.append_nil]
  exact h args first hfirst

theorem of_resolve_one {d : Demand} {e : Encoding} {p : Option Form} (harity : d.arity = 1)
    (h : ∀ arg r, d.resolve [arg] = .ok r → ∃ arg', r = [arg'] ∧ e.Writes arg' p) :
    Fit [d] [e] [p] := by
  refine of_resolve fun args r hr => ?_
  rw [harity] at hr
  cases args with
  | nil =>
    rw [List.take_nil, Demand.resolve_nil] at hr
    cases hr
  | cons arg args =>
    obtain ⟨arg', rfl, hwrites⟩ := h arg r hr
    exact .cons hwrites .nil

theorem of_check {α : Type} {d : Demand} {e : Encoding} {p : Option Form} (harity : d.arity = 1)
    {check : String → Except UsageFault α}
    (hresolve : ∀ arg, d.resolve [arg] = Demand.keep [arg] (check arg))
    (h : ∀ arg v, check arg = .ok v → e.Writes arg p) : Fit [d] [e] [p] := by
  refine of_resolve_one harity fun arg r hr => ?_
  rw [hresolve] at hr
  obtain ⟨rfl, v, hv⟩ := Demand.of_keep hr
  exact ⟨arg, rfl, h arg v hv⟩

theorem writes_two {arg : String} (h : Numeric 2 arg) :
    (Encoding.int 2).Writes arg (some (Form.digits 2)) :=
  writes_int (h.readInt_eq (by decide)) (by decide) h.value_lt (by decide)

theorem writes_year {arg : String} {n : Nat} (h : Check.year arg = .ok n) :
    Encoding.raw.Writes arg (some (Form.digits 4)) := by
  obtain ⟨hnumeric, hlen, -⟩ := Check.of_year h
  exact writes_raw (isPart_digits hlen hnumeric.digits (by decide))

theorem writes_shortYear {arg : String} {n : Nat} (h : Check.year arg = .ok n) :
    Encoding.yearFrom2000.Writes arg (some (Form.digits 2)) := by
  obtain ⟨hnumeric, -, rfl, hlow, hhigh⟩ := Check.of_year h
  exact writes_yearFrom2000 (hnumeric.readInt_eq (by decide)) hlow hhigh

theorem year : Fit [.year] [.raw] [some (Form.digits 4)] :=
  of_check rfl (fun _ => rfl) fun _ _ => writes_year

theorem month : Fit [.month] [.int 2] [some (Form.digits 2)] :=
  of_check rfl (fun _ => rfl) fun _ _ h => writes_two (Check.of_month h).1

/-- A date is written with all four digits of its year, or with the last two. -/
theorem date {e : Encoding} {f : Form}
    (hyear : ∀ y n, Check.year y = .ok n → e.Writes y (some f)) :
    Fit [.date] [e, .int 2, .int 2] [some f, some (Form.digits 2), some (Form.digits 2)] := by
  refine of_resolve fun args r hr => ?_
  obtain ⟨y, m, d, v, -, rfl, hv⟩ := Demand.of_resolve_date hr
  obtain ⟨hy, hm, hd⟩ := Check.of_date hv
  exact .cons (hyear y _ hy) (.cons (writes_two (Check.of_month hm).1)
    (.cons (writes_two (Check.of_day hd).1) .nil))

theorem clock : Fit [.clock] [.int 2, .int 2, .int 2]
    [some (Form.digits 2), some (Form.digits 2), some (Form.digits 2)] := by
  refine of_resolve fun args r hr => ?_
  obtain ⟨a, b, c, v, -, rfl, hv⟩ := Demand.of_resolve_clock hr
  obtain ⟨⟨ha, hb, hc⟩, -⟩ := Check.of_clock hv
  exact .cons (writes_two ha) (.cons (writes_two hb) (.cons (writes_two hc) .nil))

theorem timeOfDay (what : String) : Fit [.timeOfDay what] [.time] [some (Form.digits 4)] := by
  refine of_check rfl (fun _ => rfl) fun arg t h => ?_
  obtain ⟨before, behind, hcut, hhour, hh, hminute, hm⟩ := Check.of_timeOfDay h
  exact writes_time hcut hhour (by omega) hminute (by omega)

theorem parallelId_number : Fit [.parallelId] [.number] [some (Form.digits 1)] := by
  refine of_check rfl (fun _ => rfl) fun arg n h => ?_
  have hnumeric := (Check.numeric_of_number h).1
  exact writes_number (hnumeric.readInt_eq (by decide)) (by simpa using hnumeric.value_lt)

theorem parallelId_char : Fit [.parallelId] [.char] [some (Form.digits 1)] := by
  refine of_check rfl (fun _ => rfl) fun arg n h => ?_
  obtain ⟨c, harg, hc⟩ := (Check.numeric_of_number h).1.exists_eq_singleton
  exact writes_char harg hc

theorem amperes : Fit [.amperes] [.int 3] [some (Form.digits 3)] := by
  refine of_check rfl (fun _ => rfl) fun arg n h => ?_
  have hnumeric := (Check.numeric_of_number h).1
  exact writes_int (hnumeric.readInt_eq (by decide)) (by decide) hnumeric.value_lt (by decide)

theorem solarId : Fit [.solarId] [.solarId] [some (Form.digits 22)] := by
  refine of_check rfl (fun _ => rfl) fun arg _ h => ?_
  have hnumeric := Check.of_solarId h
  exact writes_solarId hnumeric.digits hnumeric.length_le

theorem ratedVoltage : Fit [.ratedVoltage] [.timesTen 4] [some (Form.digits 4)] := by
  refine of_check rfl (fun _ => rfl) fun arg n h => ?_
  obtain ⟨hread, hn⟩ := Check.of_ratedVoltage h
  have hbound : n * 10 < Numeral.int64Bound := by
    rw [Numeral.int64Bound_eq]
    omega
  exact writes_timesTen hread (by decide) (by omega) hbound (by decide)

theorem voltage (range : Check.VoltageRange) (what : String) :
    Fit [.voltage range what] [.tenths 3] [none] :=
  of_check rfl (fun _ => rfl) fun _ _ h => writes_tenths (by decide) (Check.of_voltage h)

theorem rechargeVoltage : Fit [.rechargeVoltage] [.tenths 3] [none] :=
  of_check rfl (fun _ => rfl) fun arg _ h => writes_tenths (by decide)
    (Check.isSome_read_threshold arg (List.mem_append_left _ (Check.of_listed h)))

theorem redischargeVoltage : Fit [.redischargeVoltage] [.tenths 3] [none] :=
  of_check rfl (fun _ => rfl) fun arg _ h => writes_tenths (by decide)
    (Check.isSome_read_threshold arg (List.mem_append_right _ (Check.of_listed h)))

theorem zeroOrOne (what : String) : Fit [.zeroOrOne what] [.raw] [some Form.bit] := by
  refine of_check rfl (fun _ => rfl) fun arg v h => writes_raw (isPart_of_matches ?_ (by decide))
  obtain rfl := Check.of_zeroOrOne h
  cases v with
  | false => exact .cons (by decide) .nil
  | true => exact .cons (by decide) .nil

theorem frequency : Fit [.frequency] [.int 2] [some (Form.digits 2)] := by
  refine of_check rfl (fun _ => rfl) fun arg n h => writes_two ?_
  rcases Check.of_frequency h with ⟨rfl, -⟩ | ⟨rfl, -⟩
  · exact Check.numeric_of_isNumeric (by decide)
  · exact Check.numeric_of_isNumeric (by decide)

/-- A choice out of ten at the most goes out as its digit. -/
theorem choice {table : CodeTable} (h : table.choices.length ≤ 10) :
    Fit [.choice table] [.char] [some (Form.digits 1)] := by
  refine of_resolve_one rfl fun arg r hr => ?_
  obtain ⟨n, hn, rfl, -⟩ := Demand.of_resolve_choice hr
  obtain ⟨c, hc⟩ := List.length_eq_one_iff.mp
    (Numeral.length_decimal_eq_one (Nat.lt_of_lt_of_le hn h))
  refine ⟨_, rfl, writes_char (c := c) ?_ ?_⟩
  · simp [Coded.digit, Numeral.signed, hc]
  · exact Numeral.isDigit_of_mem_decimal (by rw [hc]; exact List.mem_singleton_self c)

theorem isPart_toggle {f : Flag} (hf : f ∈ Flag.all) (state : String) :
    IsPart (some Form.toggle) (encodeToggle f.key state) := by
  refine isPart_of_matches ?_ (by decide)
  rw [encodeToggle, Flag.ofKey?_key f hf]
  simp only [String.toList_append, String.toList_singleton]
  refine Form.Matches.append ?_ (Flag.code_between f hf)
  split
  · exact .cons (by decide) .nil
  · exact .cons (by decide) .nil

theorem flag (what : String) : Fit [.flag, .zeroOrOne what] [.toggle] [some Form.toggle] := by
  intro args r hr
  obtain ⟨first, others, rfl, hfirst, hothers⟩ := Demand.of_resolveAll_cons hr
  obtain ⟨-, f, hf, -, rfl, -⟩ := Demand.of_resolve_flag hfirst
  obtain ⟨second, rest, rfl, hsecond, hrest⟩ := Demand.of_resolveAll_cons hothers
  obtain rfl := Except.ok.inj hrest
  match h : args.drop 1, hsecond with
  | state :: rest, hsecond =>
    obtain ⟨rfl, -⟩ := Demand.of_keep hsecond
    exact .toggle (isPart_toggle hf state) .nil
  | [], hsecond => cases hsecond

end Fit

end HybridInverter
