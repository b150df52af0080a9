import HybridInverter.Host.Machine
import HybridInverter.Proofs.CommandLine.Reader
import HybridInverter.Proofs.Outcome
import HybridInverter.Proofs.Settings.Document
import HybridInverter.Proofs.Text.Slice

/-!
Settings from a file and the options in their place. Whatever is loaded and whatever is merged into
it can be worked with; an option wins over the file, the file over the default, a checksum is off if
either switches it off, and an address is divided at its last colon.
-/
namespace HybridInverter

/-- A device that a link can be opened to. -/
def Device.Usable : Device → Prop
  | .hidraw path => path ≠ ""
  | .tcp host port _ => host ≠ "" ∧ port ≠ 0

namespace Settings

/-- Decimal digits that spell the number of a port, with a plus sign or none. -/
def PortDigits (text : List Char) (port : Nat) : Prop :=
  port ≤ 65535 ∧ ∃ digits, (text = digits ∨ text = '+' :: digits) ∧ Numeral.Spells 10 digits port

theorem of_readAddress {text : String} {d : Device} (h : readAddress text = .ok d) :
    ∃ host digits : String, ∃ port, text = host ++ ":" ++ digits ∧ ':' ∉ digits.toList ∧
      PortDigits digits.toList port ∧ d = .tcp host port none := by
  unfold readAddress at h
  split at h
  case h_1 => cases h
  case h_2 host digits hcut =>
    obtain ⟨htext, hcolon⟩ := Text.eq_append_of_cutLast hcut
    split at h
    case h_1 port hport =>
      obtain rfl := Except.ok.inj h
      have hdigits : PortDigits digits port := Numeral.of_readNat hport
      refine ⟨String.ofList host, String.ofList digits, port, ?_, by simpa using hcolon,
        by rwa [String.toList_ofList], rfl⟩
      rw [← String.toList_inj, htext]
      simp
    case h_2 => cases h

theorem readAddress_append (host : String) {port : Nat} (h : port ≤ 65535) :
    readAddress (host ++ ":" ++ toString port) = .ok (.tcp host port none) := by
  have hcolon : ':' ∉ Numeral.decimal port := fun hmem =>
    absurd (Numeral.isDigit_of_mem_decimal hmem) (by decide)
  have hport : (toString port).toList = Numeral.decimal port := String.toList_ofList
  have htext : (host ++ ":" ++ toString port).toList =
      host.toList ++ ':' :: Numeral.decimal port := by
    rw [String.toList_append, String.toList_append, List.append_assoc, hport]
    rfl
  have hread : Numeral.readNat (Numeral.unsigned 16) (Numeral.decimal port) = .ok port := by
    have hfits : port ≤ Numeral.unsigned 16 := h
    simpa using Numeral.readNat_padded hfits 0
  rw [readAddress, htext, Text.cutLast_append host.toList hcolon]
  simp only [hread, String.ofList_toList]

structure Valid (s : Settings) : Prop where
  timeout : 1 ≤ s.timeout ∧ s.timeout ≤ 60000
  device : s.device.Usable

theorem checkDevice_eq_ok_iff {d : Device} : checkDevice d = .ok () ↔ d.Usable := by
  cases d with
  | hidraw path => simp [checkDevice, Device.Usable]
  | tcp host port noDelay =>
    by_cases hhost : host = ""
    · simp [checkDevice, Device.Usable, hhost]
    · by_cases hport : port = 0 <;> simp [checkDevice, Device.Usable, hhost, hport]

theorem check_eq_ok_iff {s s' : Settings} : s.check = .ok s' ↔ s' = s ∧ s.Valid := by
  have hmost : Options.maxTimeout = 60000 := rfl
  unfold check
  split
  case isTrue hrange =>
    constructor
    · intro h
      cases h
    · rintro ⟨-, hvalid⟩
      have htimeout := hvalid.timeout
      omega
  case isFalse hrange =>
    have hdevice := checkDevice_eq_ok_iff (d := s.device)
    constructor
    · intro h
      cases hcheck : checkDevice s.device with
      | error fault => rw [hcheck] at h; cases h
      | ok =>
        rw [hcheck] at h
        exact ⟨(Except.ok.inj h).symm, by omega, hdevice.mp hcheck⟩
    · rintro ⟨rfl, hvalid⟩
      rw [hdevice.mpr hvalid.device]
      rfl

theorem valid_default : ({} : Settings).Valid :=
  (check_eq_ok_iff.mp rfl).2

section Loading

variable {σ : Type} {h : Host (StateM σ)} {file : String} {file? : Option String} {st loaded : σ}
  {s : Settings}

def ReadAs (h : Host (StateM σ)) (st : σ) (file text : String) : Prop :=
  ∃ after, (h.readText file).run ((h.note (noteReading file)).run st).2 = (.ok text, after)

/-- The text that settings are loaded from: that of the file that is named, or of the usual one if
it is there, and none otherwise. -/
inductive Origin (h : Host (StateM σ)) (st : σ) : Option String → Option String → Prop
  | named {file text : String} (hread : ReadAs h st file text) : Origin h st (some file) (some text)
  | usual {looked : σ} {text : String}
      (hthere : (h.isPresent "voltronic-p18.yaml").run st = (true, looked))
      (hread : ReadAs h looked "voltronic-p18.yaml" text) : Origin h st none (some text)
  | nothing {looked : σ} (hmissing : (h.isPresent "voltronic-p18.yaml").run st = (false, looked)) :
    Origin h st none none

theorem of_loadFile (hload : (loadFile h file).run.run st = (.ok s, loaded)) :
    ∃ (text : String) (said : Said), ReadAs h st file text ∧ said.SaidIn (some text) ∧
      s = said.settings ∧ s.Valid := by
  obtain ⟨_, noted, hnote, hrest⟩ := exists_of_run_bind hload
  obtain rfl : ((h.note (noteReading file)).run st).2 = noted :=
    congrArg Prod.snd (eq_of_run_lift hnote)
  obtain ⟨outcome, after, hread, hrest⟩ := exists_of_run_bind hrest
  cases outcome with
  | error reason => cases hrest
  | ok text =>
    cases hsettings : ofText? text with
    | none => simp only [hsettings] at hrest; cases hrest
    | some s' =>
      simp only [hsettings] at hrest
      obtain ⟨_, _, -, hchecked⟩ := exists_of_run_bind hrest
      have hcheck : s'.check.mapError Failure.settings = .ok s := congrArg Prod.fst hchecked
      obtain ⟨rfl, hvalid⟩ := check_eq_ok_iff.mp (mapError_eq_ok_iff.mp hcheck)
      obtain ⟨said, hsaid, hsettings⟩ := of_ofText? hsettings
      exact ⟨text, said, ⟨after, eq_of_run_lift hread⟩, hsaid, hsettings, hvalid⟩

theorem of_load (hload : (load h file?).run.run st = (.ok s, loaded)) :
    ∃ (text? : Option String) (said : Said), Origin h st file? text? ∧ said.SaidIn text? ∧
      s = said.settings ∧ s.Valid := by
  cases file? with
  | some file =>
    obtain ⟨text, said, hread, hsaid⟩ := of_loadFile hload
    exact ⟨some text, said, .named hread, hsaid⟩
  | none =>
    obtain ⟨isThere, looked, hlook, hrest⟩ := exists_of_run_bind hload
    have hlooked := eq_of_run_lift hlook
    cases isThere with
    | true =>
      obtain ⟨text, said, hread, hsaid⟩ := of_loadFile hrest
      exact ⟨some text, said, .usual hlooked hread, hsaid⟩
    | false =>
      obtain ⟨_, _, -, hdone⟩ := exists_of_run_bind hrest
      obtain rfl : ({} : Settings) = s := Except.ok.inj (congrArg Prod.fst hdone)
      exact ⟨none, {}, .nothing hlooked, rfl, rfl, valid_default⟩

end Loading

/-- What comes of what is said in a file and the options. -/
structure Merged (o : Options) (said : Said) (s : Settings) : Prop where
  logLevel : s.logLevel = said.logLevel.getD "warn"
  format : s.format = (o.format <|> said.format).getD .table
  timeout : s.timeout = (o.timeout <|> said.timeout).getD 1000
  device : o.tcp = none →
    s.device = (o.device.map Device.hidraw <|> said.device).getD (.hidraw "/dev/hidraw0")
  address : ∀ address, o.tcp = some address → ∃ host digits : String, ∃ port,
    address = host ++ ":" ++ digits ∧ ':' ∉ digits.toList ∧ PortDigits digits.toList port ∧
      s.device = .tcp host port none
  write : s.checksums.append = false ↔
    o.noWriteChecksum = true ∨ said.switches.bind Switches.write = some true
  parse : s.checksums.expect = false ↔
    o.noParseChecksum = true ∨ said.switches.bind Switches.parse = some true
  verify : s.checksums.verify = false ↔
    o.noVerifyChecksum = true ∨ said.switches.bind Switches.verify = some true

/-- The options in the place of settings, but for those that name a device. -/
def overridden (o : Options) (device : Device) (s : Settings) : Settings where
  logLevel := s.logLevel
  format := o.format.getD s.format
  timeout := o.timeout.getD s.timeout
  device := device
  checksums :=
    { append := s.checksums.append && !o.noWriteChecksum
      expect := s.checksums.expect && !o.noParseChecksum
      verify := s.checksums.verify && !o.noVerifyChecksum }

theorem merge_eq_ok_iff {o : Options} {s s' : Settings} : s.merge o = .ok s' ↔
    ∃ device, mergeDevice o s.device = .ok device ∧ s' = s.overridden o device ∧ s'.Valid := by
  constructor
  · intro h
    obtain ⟨device, hdevice, hcheck⟩ := bind_eq_ok_iff.mp h
    obtain ⟨rfl, hvalid⟩ := check_eq_ok_iff.mp hcheck
    exact ⟨device, hdevice, rfl, hvalid⟩
  · rintro ⟨device, hdevice, rfl, hvalid⟩
    rw [merge, hdevice]
    exact check_eq_ok_iff.mpr ⟨rfl, hvalid⟩

theorem off_iff (said? : Option Switches) {switch : Switches → Option Bool}
    (hdefault : switch {} = none) (off : Bool) :
    (!(switch (said?.getD {})).getD false && !off) = false ↔
      off = true ∨ said?.bind switch = some true := by
  cases said? with
  | none => simp [hdefault]
  | some said =>
    cases hsaid : switch said with
    | none => simp [hsaid]
    | some b => cases b <;> simp [hsaid]

theorem getD_or {α : Type} (given said : Option α) (default : α) :
    given.getD (said.getD default) = (given <|> said).getD default := by
  cases given <;> rfl

theorem merged_of_merge {o : Options} {said : Said} {s : Settings}
    (h : said.settings.merge o = .ok s) : s.Valid ∧ Merged o said s := by
  obtain ⟨device, hdevice, rfl, hvalid⟩ := merge_eq_ok_iff.mp h
  refine ⟨hvalid,
    { logLevel := rfl
      format := getD_or _ _ _
      timeout := getD_or _ _ _
      device := fun hnone => ?device
      address := fun address hsome => ?address
      write := off_iff said.switches rfl o.noWriteChecksum
      parse := off_iff said.switches rfl o.noParseChecksum
      verify := off_iff said.switches rfl o.noVerifyChecksum }⟩
  case device =>
    rw [mergeDevice, hnone] at hdevice
    exact (Except.ok.inj hdevice).symm.trans (getD_or _ _ _)
  case address =>
    rw [mergeDevice, hsome] at hdevice
    exact of_readAddress hdevice

theorem overridden_timeout {o : Options} {s : Settings} (device : Device) (hs : s.Valid)
    (htimeout : ∀ t, o.timeout = some t → 1 ≤ t ∧ t ≤ 60000) :
    1 ≤ (s.overridden o device).timeout ∧ (s.overridden o device).timeout ≤ 60000 := by
  change 1 ≤ o.timeout.getD s.timeout ∧ o.timeout.getD s.timeout ≤ 60000
  cases hgiven : o.timeout with
  | none => exact hs.timeout
  | some t => exact htimeout t hgiven

/-- Without an address nothing that a command line can give is refused. -/
theorem exists_merge_of_sound {o : Options} {s : Settings} (hs : s.Valid) (ho : o.Sound)
    (htcp : o.tcp = none) : ∃ s', s.merge o = .ok s' := by
  refine ⟨_, merge_eq_ok_iff.mpr ⟨(o.device.map .hidraw).getD s.device, ?_, rfl,
    overridden_timeout _ hs ho.timeout, ?_⟩⟩
  · rw [mergeDevice, htcp]
  · change ((o.device.map Device.hidraw).getD s.device).Usable
    cases hgiven : o.device with
    | none => exact hs.device
    | some path => exact ho.path path hgiven

/-- An address of a host and a port is taken apart into just these. -/
theorem merge_address {o : Options} {s : Settings} {host : String} {port : Nat} (hs : s.Valid)
    (htimeout : ∀ t, o.timeout = some t → 1 ≤ t ∧ t ≤ 60000) (hhost : host ≠ "")
    (hlow : 1 ≤ port) (hhigh : port ≤ 65535) (htcp : o.tcp = some (host ++ ":" ++ toString port)) :
    s.merge o = .ok (s.overridden o (.tcp host port none)) := by
  refine merge_eq_ok_iff.mpr ⟨.tcp host port none, ?_, rfl,
    overridden_timeout _ hs htimeout, hhost, by omega⟩
  rw [mergeDevice, htcp]
  exact readAddress_append host hhigh

/-- Settings that have loaded are what their file says, and defaults beside it; whatever comes of
them and the options can be worked with and gives the options precedence. Of what can be given on a
command line, which has one name for the device at most, only an address can be refused, and one of a
host, whatever colons it has in it, and of a port is not. -/
theorem options_win_over_file_over_default {σ : Type} {h : Host (StateM σ)}
    {file? : Option String} {st loaded : σ} {s : Settings}
    (hload : (load h file?).run.run st = (.ok s, loaded)) :
    ∃ (text? : Option String) (said : Said), Origin h st file? text? ∧ said.SaidIn text? ∧
      s = said.settings ∧
      (∀ (o : Options) (s' : Settings), s.merge o = .ok s' → s'.Valid ∧ Merged o said s') ∧
      (∀ (o : Options) (host : String) (port : Nat),
        (∀ t, o.timeout = some t → 1 ≤ t ∧ t ≤ 60000) → host ≠ "" → 1 ≤ port → port ≤ 65535 →
        o.tcp = some (host ++ ":" ++ toString port) →
        ∃ s', s.merge o = .ok s' ∧ s'.device = .tcp host port none ∧
          s'.device.name = "tcp:" ++ host ++ ":" ++ toString port) ∧
      ∀ (words : List String) (i : CommandLine.Invocation), CommandLine.read words = .ok i →
        i.options.Sound ∧ (i.options.tcp = none → ∃ s', s.merge i.options = .ok s') := by
  obtain ⟨text?, said, horigin, hsaid, rfl, hvalid⟩ := of_load hload
  refine ⟨text?, said, horigin, hsaid, rfl, fun o s' hmerge => merged_of_merge hmerge,
    fun o host port htimeout hhost hlow hhigh htcp => ?_, fun words i hread => ?_⟩
  · exact ⟨_, merge_address hvalid htimeout hhost hlow hhigh htcp, rfl, rfl⟩
  · have hsound := CommandLine.sound_of_read hread
    exact ⟨hsound, exists_merge_of_sound hvalid hsound⟩

/-- A file that names a format, a timeout and a bridge, and switches the comparison of checksums off;
first an address with colons in its host and a timeout among the options, then another format. -/
theorem options_win_over_file_over_default_colons :
    let mc : Machine := { files := [("voltronic-p18.yaml", Utf8.encode
      ("format: json-w-units\ntimeout_ms: 500\n" ++
        "device:\n  type: tcp\n  host: bridge\n  port: 23\n" ++
        "crc:\n  disable_verify: true\n").toList)] }
    let o : Options := { tcp := some "fe80::1:4001", timeout := some 250 }
    ∃ loaded s s' s'', (load Machine.host none).run.run mc = (.ok s, loaded) ∧
      s.format = .jsonWithUnits ∧ s.timeout = 500 ∧ s.device = .tcp "bridge" 23 none ∧
      s.merge o = .ok s' ∧ s'.Valid ∧ s'.format = .jsonWithUnits ∧ s'.timeout = 250 ∧
      s'.device = .tcp "fe80::1" 4001 none ∧ s'.device.name = "tcp:fe80::1:4001" ∧
      s'.checksums.append = true ∧ s'.checksums.verify = false ∧
      s.merge { format := some .json } = .ok s'' ∧ s''.format = .json ∧ s''.timeout = 500 ∧
      s''.device = .tcp "bridge" 23 none := by
  intro mc o
  have hload : ((load Machine.host none).run.run mc).1 = .ok
      { format := .jsonWithUnits, timeout := 500, device := .tcp "bridge" 23 none,
        checksums := { verify := false } } := by
    decide +kernel
  obtain ⟨text?, said, -, -, hsaid, hmerged, haddress, -⟩ :=
    options_win_over_file_over_default (Prod.ext hload rfl)
  have hformat : .jsonWithUnits = said.format.getD .table := congrArg Settings.format hsaid
  have htimeout : 500 = said.timeout.getD 1000 := congrArg Settings.timeout hsaid
  have hdevice : .tcp "bridge" 23 none = said.device.getD (.hidraw "/dev/hidraw0") :=
    congrArg Settings.device hsaid
  have happend : true = !(said.switches.getD {}).write.getD false :=
    congrArg (fun s => s.checksums.append) hsaid
  have hverify : false = !(said.switches.getD {}).verify.getD false :=
    congrArg (fun s => s.checksums.verify) hsaid
  obtain ⟨s', hmerge, hbridge, hname⟩ :=
    haddress o "fe80::1" 4001 (by simp [o]) (by decide) (by decide) (by decide) (by decide +kernel)
  obtain ⟨hvalid, hall⟩ := hmerged o s' hmerge
  obtain ⟨-, hall'⟩ := hmerged { format := some .json } _ rfl
  refine ⟨_, _, s', _, Prod.ext hload rfl, rfl, rfl, rfl, hmerge, hvalid,
    hall.format.trans hformat.symm, hall.timeout, hbridge, hname.trans (by decide +kernel), ?append,
    ?verify, rfl, hall'.format, hall'.timeout.trans htimeout.symm,
    (hall'.device rfl).trans hdevice.symm⟩
  case append =>
    by_contra hoff
    have hsaidOff := (off_iff said.switches rfl false).mpr
      (hall.write.mp (by simpa using hoff))
    rw [← happend] at hsaidOff
    cases hsaidOff
  case verify =>
    exact hall.verify.mpr ((off_iff said.switches rfl false).mp (by rw [← hverify]; rfl))

end Settings
end HybridInverter
