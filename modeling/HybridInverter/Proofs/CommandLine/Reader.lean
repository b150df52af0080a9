import HybridInverter.CommandLine.Reader
import HybridInverter.Proofs.Request.Check

/-!
What the options of a command line that is carried out have in common: the time to wait for a reply
is within its bounds, and the device is named in one way at most, not by an empty path. Every option
that is entered keeps to it, so that the whole of a command line does.
-/
namespace HybridInverter

namespace Options

structure Sound (o : Options) : Prop where
  timeout : ∀ t, o.timeout = some t → 1 ≤ t ∧ t ≤ maxTimeout
  path : ∀ path, o.device = some path → path ≠ ""
  device : o.device = none ∨ o.tcp = none

/-- What a switch may change about the options that settings have to do with. -/
structure ChangedBy (s : Switch) (o o' : Options) : Prop where
  timeout : o'.timeout = o.timeout ∨ ∃ t, o'.timeout = some t ∧ 1 ≤ t ∧ t ≤ maxTimeout
  device : o'.device = o.device ∨ s = .device ∧ ∃ path, o'.device = some path ∧ path ≠ ""
  tcp : o'.tcp = o.tcp ∨ s = .tcp

theorem of_readTimeout {value : List Char} {t : Nat} (h : readTimeout value = .ok t) :
    1 ≤ t ∧ t ≤ maxTimeout := by
  unfold readTimeout at h
  split at h
  case h_1 n _ =>
    split at h
    case isTrue hrange =>
      obtain rfl := Except.ok.inj h
      exact hrange
    case isFalse => cases h
  case h_2 => cases h

theorem of_readPath {value : List Char} {path : String} (h : readPath value = .ok path) :
    path ≠ "" := by
  unfold readPath at h
  split at h
  case isTrue => cases h
  case isFalse hfull =>
    obtain rfl := Except.ok.inj h
    simpa using hfull

theorem changedBy_withValue {o o' : Options} {s : Switch} {value : List Char}
    (h : o.withValue s value = .ok o') : ChangedBy s o o' := by
  cases s with
  | settings | format =>
    obtain ⟨a, -, hpure⟩ := bind_eq_ok_iff.mp h
    obtain rfl := Except.ok.inj hpure
    exact ⟨.inl rfl, .inl rfl, .inl rfl⟩
  | timeout =>
    obtain ⟨t, hread, hpure⟩ := bind_eq_ok_iff.mp h
    obtain rfl := Except.ok.inj hpure
    exact ⟨.inr ⟨t, rfl, of_readTimeout hread⟩, .inl rfl, .inl rfl⟩
  | device =>
    obtain ⟨path, hread, hpure⟩ := bind_eq_ok_iff.mp h
    obtain rfl := Except.ok.inj hpure
    exact ⟨.inl rfl, .inr ⟨rfl, path, rfl, of_readPath hread⟩, .inl rfl⟩
  | tcp =>
    obtain rfl := Except.ok.inj h
    exact ⟨.inl rfl, .inl rfl, .inr rfl⟩
  | verbose | pretend | noWriteChecksum | noParseChecksum | noVerifyChecksum | help | version =>
    cases h

theorem changedBy_withSwitch {o o' : Options} {s : Switch} (h : o.withSwitch s = .ok o') :
    ChangedBy s o o' := by
  cases s with
  | verbose | pretend | noWriteChecksum | noParseChecksum | noVerifyChecksum =>
    obtain rfl := Except.ok.inj h
    exact ⟨.inl rfl, .inl rfl, .inl rfl⟩
  | settings | timeout | format | device | tcp | help | version => cases h

end Options

namespace CommandLine
namespace State

structure Sound (st : State) : Prop where
  timeout : ∀ t, st.options.timeout = some t → 1 ≤ t ∧ t ≤ Options.maxTimeout
  path : ∀ path, st.options.device = some path → path ≠ ""
  device : .device ∉ st.given → st.options.device = none
  tcp : .tcp ∉ st.given → st.options.tcp = none

variable {st st' : State} {s : Switch}

theorem sound_start : ({} : State).Sound where
  timeout _ h := by cases h
  path _ h := by cases h
  device _ := rfl
  tcp _ := rfl

theorem of_enter {value : Option (List Char)} (h : st.enter s value = .ok st') :
    ∃ options, Options.ChangedBy s st.options options ∧
      st' = { st with options, given := s :: st.given } := by
  unfold State.enter at h
  split at h
  · cases h
  · cases value with
    | none =>
      obtain ⟨options, hoptions, hpure⟩ := bind_eq_ok_iff.mp h
      exact ⟨options, Options.changedBy_withSwitch hoptions, (Except.ok.inj hpure).symm⟩
    | some value =>
      obtain ⟨options, hoptions, hpure⟩ := bind_eq_ok_iff.mp h
      exact ⟨options, Options.changedBy_withValue hoptions, (Except.ok.inj hpure).symm⟩

theorem Sound.enter {value : Option (List Char)} (hst : st.Sound)
    (h : st.enter s value = .ok st') : st'.Sound := by
  obtain ⟨options, hchanged, rfl⟩ := of_enter h
  refine ⟨fun t ht => ?timeout, fun path hpath => ?path, fun hnot => ?device, fun hnot => ?tcp⟩
  case timeout =>
    rcases hchanged.timeout with hsame | ⟨t', hnew, hrange⟩
    · exact hst.timeout t (hsame ▸ ht)
    · obtain rfl := Option.some.inj (hnew.symm.trans ht)
      exact hrange
  case path =>
    rcases hchanged.device with hsame | ⟨-, path', hnew, hfull⟩
    · exact hst.path path (hsame ▸ hpath)
    · obtain rfl := Option.some.inj (hnew.symm.trans hpath)
      exact hfull
  case device =>
    obtain ⟨hne, hbefore⟩ := List.ne_and_not_mem_of_not_mem_cons hnot
    rcases hchanged.device with hsame | ⟨hdevice, -⟩
    · exact hsame.trans (hst.device hbefore)
    · exact absurd hdevice.symm hne
  case tcp =>
    obtain ⟨hne, hbefore⟩ := List.ne_and_not_mem_of_not_mem_cons hnot
    rcases hchanged.tcp with hsame | htcp
    · exact hsame.trans (hst.tcp hbefore)
    · exact absurd htcp.symm hne

theorem Sound.pend (hst : st.Sound) (pending : Option (Switch × Option (List Char))) :
    ({ st with pending } : State).Sound :=
  ⟨hst.timeout, hst.path, hst.device, hst.tcp⟩

theorem Sound.settle (hst : st.Sound) (h : st.settle = .ok st') : st'.Sound := by
  unfold State.settle at h
  split at h
  case h_1 =>
    obtain rfl := Except.ok.inj h
    exact hst
  case h_2 => cases h
  case h_3 => exact (hst.pend none).enter h

theorem Sound.expect (hst : st.Sound) (h : st.expect s = .ok st') : st'.Sound := by
  obtain ⟨settled, hsettle, hpure⟩ := bind_eq_ok_iff.mp h
  obtain rfl := Except.ok.inj hpure
  exact (hst.settle hsettle).pend _

theorem Sound.attach {value : List Char} (hst : st.Sound) (h : st.attach s value = .ok st') :
    st'.Sound := by
  obtain ⟨settled, hsettle, henter⟩ := bind_eq_ok_iff.mp h
  exact (hst.settle hsettle).enter henter

theorem Sound.turnOn (hst : st.Sound) (h : st.turnOn s = .ok st') : st'.Sound := by
  obtain ⟨settled, hsettle, henter⟩ := bind_eq_ok_iff.mp h
  exact (hst.settle hsettle).enter henter

theorem Sound.readLong {name : List Char} {value : Option (List Char)} (hst : st.Sound)
    (h : st.readLong name value = .ok st') : st'.Sound := by
  unfold State.readLong at h
  split at h
  · cases h
  · split at h
    · exact hst.attach h
    · cases h
  · split at h
    · exact hst.expect h
    · exact hst.turnOn h

theorem Sound.readLetters {letters : List Char} (hst : st.Sound)
    (h : st.readLetters letters = .ok st') : st'.Sound := by
  induction letters generalizing st with
  | nil =>
    obtain rfl := Except.ok.inj h
    exact hst
  | cons c rest ih =>
    unfold State.readLetters at h
    split at h
    · cases h
    · split at h
      · split at h
        · exact hst.expect h
        · exact hst.attach h
        · exact hst.attach h
      · obtain ⟨between, hturn, hrest⟩ := bind_eq_ok_iff.mp h
        exact ih (hst.turnOn hturn) hrest

theorem Sound.finish {o : Options} (hst : st.Sound) (h : st.finish = .ok o) : o.Sound := by
  obtain ⟨settled, hsettle, hrest⟩ := bind_eq_ok_iff.mp h
  have hsettled := hst.settle hsettle
  split at hrest
  · cases hrest
  · next hexclude =>
    obtain rfl := Except.ok.inj hrest
    refine ⟨hsettled.timeout, hsettled.path, ?_⟩
    by_cases hdevice : .device ∈ settled.given
    · exact .inr (hsettled.tcp fun htcp => hexclude ⟨hdevice, htcp⟩)
    · exact .inl (hsettled.device hdevice)

end State

/-- What every word keeps, all of them do. -/
theorem sound_of_readFrom {st : State} {words : List String} {i : Invocation} (hst : st.Sound)
    (h : readFrom st words = .ok i) : i.options.Sound := by
  induction words generalizing st with
  | nil =>
    obtain ⟨_, _, herror⟩ := bind_eq_ok_iff.mp h
    cases herror
  | cons word rest ih =>
    unfold readFrom at h
    split at h
    · obtain ⟨_, _, herror⟩ := bind_eq_ok_iff.mp h
      cases herror
    · obtain ⟨st', hlong, hrest⟩ := bind_eq_ok_iff.mp h
      exact ih (hst.readLong hlong) hrest
    · obtain ⟨st', hletters, hrest⟩ := bind_eq_ok_iff.mp h
      exact ih (hst.readLetters hletters) hrest
    · split at h
      · exact ih (hst.pend _) h
      · split at h
        · cases h
        · obtain ⟨action, -, hrest⟩ := bind_eq_ok_iff.mp h
          obtain ⟨options, hfinish, hpure⟩ := bind_eq_ok_iff.mp hrest
          obtain rfl := Except.ok.inj hpure
          exact hst.finish hfinish

theorem sound_of_read {words : List String} {i : Invocation} (h : read words = .ok i) :
    i.options.Sound :=
  sound_of_readFrom State.sound_start h

end CommandLine
end HybridInverter
