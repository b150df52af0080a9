import HybridInverter.Proofs.Settings.Device

/-!
What a document says about the settings, apart from how it is read. Every setting is what the value
under its key says, and its default where no key of the mapping is its own.
-/
namespace HybridInverter
namespace Settings

open Yaml

variable {α : Type} {d : Document} {n : Node} {keys : List String}

theorem filled_of_entries {entries : List (Node × Node)} {found found' : List (Option Node)}
    (hlength : found.length = keys.length)
    (h : Visit.Yields (entries.foldlM (members.enter d keys) found) found') :
    ∃ steps, Filled found steps found' ∧ List.Forall₂ (fun entry step => step.2 = entry.2 ∧
      ∃ text, (∀ key, d.IsKey entry.1 key ↔ text = key) ∧ step.1 = keys.idxOf? text)
        entries steps := by
  induction entries generalizing found with
  | nil =>
    obtain rfl := Visit.Yields.of_pure h
    exact ⟨[], .done, .nil⟩
  | cons entry entries ih =>
    rw [List.foldlM_cons] at h
    obtain ⟨between, hfirst, hrest⟩ := h.of_bind
    obtain ⟨k, hfollow, hfirst⟩ := hfirst.of_bind
    obtain ⟨text, htext, hfirst⟩ := hfirst.of_bind
    have hkey (key : String) : d.IsKey entry.1 key ↔ text = key := by
      rw [Document.isKey_iff_of_leads (Document.leads_of_follow hfollow), ← Node.text?_eq_some_iff,
        htext.of_lift, Option.some_inj]
    cases hplace : keys.idxOf? text with
    | none =>
      rw [hplace] at hfirst
      obtain rfl := hfirst.of_pure
      obtain ⟨steps, hfilled, hsteps⟩ := ih hlength hrest
      exact ⟨(none, entry.2) :: steps, .pass hfilled, .cons ⟨rfl, text, hkey, hplace.symm⟩ hsteps⟩
    | some place =>
      simp only [hplace] at hfirst
      split at hfirst
      case isTrue => exact absurd hfirst Visit.not_yields_failure
      case isFalse hfree =>
        obtain rfl := hfirst.of_pure
        have hlt : place < found.length := by
          rw [hlength]
          exact (List.getElem?_eq_some_iff.mp (getElem?_of_idxOf? hplace)).1
        obtain ⟨steps, hfilled, hsteps⟩ := ih (by rw [List.length_set, hlength]) hrest
        exact ⟨(some place, entry.2) :: steps, .take hlt (by simpa using hfree) hfilled,
          .cons ⟨rfl, text, hkey, hplace.symm⟩ hsteps⟩

theorem of_members {found : List (Option Node)} (hkeys : keys.Nodup)
    (h : Visit.Yields (members d keys n) found) :
    found.length = keys.length ∧ ∀ (i : Nat) (key : String), keys[i]? = some key → ∀ v : Node,
      (found[i]?.join = some v ↔ d.Gives n key v) := by
  unfold members at h
  split at h
  case h_1 tag entries =>
    obtain ⟨steps, hfilled, hsteps⟩ := filled_of_entries (List.length_map _) h
    obtain ⟨hlength, hfound⟩ := filled_of_empty hfilled
    refine ⟨hlength, fun i key hi v => ?_⟩
    have hgiven := Lists.exists_mem_iff_of_forall₂
      (P := fun entry => entry.2 = v ∧ d.IsKey entry.1 key)
      (Q := fun step => step = (some i, v)) hsteps fun entry step hstep => by
        obtain ⟨hvalue, text, hkey, hplace⟩ := hstep
        rw [Prod.ext_iff, hkey, hplace, hvalue, idxOf?_eq_some_iff_of_nodup hkeys hi, and_comm]
    rw [hfound]
    simpa [Document.Gives, and_comm] using hgiven.symm
  case h_2 =>
    obtain rfl := h.of_pure
    obtain ⟨hlength, hfound⟩ : (keys.map fun _ => none).length = keys.length ∧ _ :=
      filled_of_empty .done
    refine ⟨hlength, fun i key hi v => ?_⟩
    rw [hfound]
    simp [Document.Gives]
  case h_3 => exact absurd h Visit.not_yields_failure

def formatNames : List (String × Report.Format) :=
  [("table", .table), ("parsable-table", .parsableTable), ("json", .json),
   ("json-w-units", .jsonWithUnits)]

/-- A format is named by a text, or by a tag of one's own with nothing behind it. -/
inductive NamesFormat : Node → Report.Format → Prop
  | text {tag : Option Tag} {style : Yaml.Style} {name : String} {f : Report.Format}
      (h : (name, f) ∈ formatNames) : NamesFormat (.scalar tag style name) f
  | tag {tag : Tag} {text name : String} {f : Report.Format} (h : (name, f) ∈ formatNames)
      (htag : tag.bytes = 0x21 :: name.toUTF8.data.toList) (htext : text ∈ nulls) :
      NamesFormat (.scalar (some tag) .plain text) f

theorem mem_formatNames_of_ofName? {name : String} {f : Report.Format}
    (h : Report.Format.ofName? name = some f) : (name, f) ∈ formatNames := by
  have hname : f.name = name := by simpa using List.find?_some h
  have hall : (f.name, f) ∈ formatNames := by cases f <;> decide
  rwa [hname] at hall

theorem bytes_of_localName? {tag : Tag} {name : String} (h : tag.localName? = some name) :
    tag.bytes = 0x21 :: name.toUTF8.data.toList := by
  unfold Tag.localName? at h
  split at h
  case isTrue hlocal =>
    unfold String.fromUTF8? at h
    split at h
    case isTrue =>
      obtain rfl := Option.some.inj h
      obtain ⟨_ | ⟨first, bytes⟩⟩ := tag
      · cases hlocal
      · have hfirst : first = 0x21 := by simpa [Tag.isLocal, Tag.mark] using hlocal
        subst hfirst
        rfl
    case isFalse => cases h
  case isFalse => cases h

theorem namesFormat_of_readFormat {v : Node} {f : Report.Format} (h : readFormat v = some f) :
    NamesFormat v f := by
  cases v with
  | scalar tag style text =>
    simp only [readFormat] at h
    split at h
    case h_1 name hname =>
      obtain ⟨tag, rfl, hname⟩ := Option.bind_eq_some_iff.mp hname
      split at h
      case isTrue hread =>
        simp only [Bool.and_eq_true, decide_eq_true_eq, Bool.or_eq_true] at hread
        obtain ⟨rfl, hnull⟩ := hread
        refine .tag (mem_formatNames_of_ofName? h) (bytes_of_localName? hname) ?_
        rcases hnull with hempty | hnull
        · have htext : text = "" := by simpa using hempty
          simp [nulls, htext]
        · exact Scalar.mem_nulls_of_isNull hnull
      case isFalse => cases h
    case h_2 => exact .text (mem_formatNames_of_ofName? h)
  | _ => cases h

/-- A member is what is said by what is given, or its default. -/
theorem of_orDefault {given : Node → Prop} {member : Option Node} {default a : α}
    {read : Node → Visit α} {Reads : Node → α → Prop} (hmember : ∀ v, member = some v ↔ given v)
    (h : Visit.Yields (orDefault d default read member) a)
    (hread : ∀ v a, Visit.Yields (read v) a → Reads v a) :
    ∃ said : Option α, d.Says given Reads said ∧ a = said.getD default := by
  cases member with
  | none =>
    refine ⟨none, fun v hgiven => ?_, Visit.Yields.of_pure h⟩
    exact absurd ((hmember v).mpr hgiven) (by simp)
  | some v =>
    obtain ⟨v', hfollow, hyields⟩ := Visit.Yields.of_bind h
    refine ⟨some a, ⟨v', ⟨v, (hmember v).mp rfl⟩, fun w hw => ?_, hread v' a hyields⟩, rfl⟩
    rw [← Option.some.inj ((hmember w).mpr hw)]
    exact Document.leads_of_follow hfollow

/-- What is said about checksums: whether they are off where they are written, expected or
compared. -/
structure Switches where
  write : Option Bool := none
  parse : Option Bool := none
  verify : Option Bool := none

def Switches.use (s : Switches) : ChecksumUse where
  append := !s.write.getD false
  expect := !s.parse.getD false
  verify := !s.verify.getD false

/-- A node says this about checksums. -/
structure Switches.Told (d : Document) (n : Node) (s : Switches) : Prop where
  write : d.Says (d.Gives n "disable_write") Node.IsTruth s.write
  parse : d.Says (d.Gives n "disable_parse") Node.IsTruth s.parse
  verify : d.Says (d.Gives n "disable_verify") Node.IsTruth s.verify

structure Said where
  logLevel : Option String := none
  format : Option Report.Format := none
  timeout : Option Nat := none
  device : Option Device := none
  switches : Option Switches := none

namespace Said

def settings (said : Said) : Settings where
  logLevel := said.logLevel.getD "warn"
  format := said.format.getD .table
  timeout := said.timeout.getD 1000
  device := said.device.getD (.hidraw "/dev/hidraw0")
  checksums := (said.switches.getD {}).use

/-- A document says this about the settings. -/
structure Told (d : Document) (said : Said) : Prop where
  logLevel : d.Says (d.Gives d.root "loglevel") Node.IsText said.logLevel
  format : d.Says (d.Gives d.root "format") NamesFormat said.format
  timeout : d.Says (d.Gives d.root "timeout_ms") (fun v (t : Nat) => v.IsNumber t) said.timeout
  device : d.Says (d.Gives d.root "device") (Describes d) said.device
  switches : d.Says (d.Gives d.root "crc") (fun v s => s.Told d v) said.switches

/-- What a text has to say: that of its document, or nothing if it has none, or if there is no
text. -/
def SaidIn (said : Said) : Option String → Prop
  | none => said = {}
  | some text => (Document.ofText? text = some [] ∧ said = {}) ∨
      ∃ d, Document.ofText? text = some [d] ∧ said.Told d

end Said

theorem of_readChecksums {use : ChecksumUse} (h : Visit.Yields (readChecksums d n) use) :
    ∃ s : Switches, s.Told d n ∧ s.use = use := by
  have htruth (v : Node) (b : Bool) (h : Visit.Yields (liftM v.bool?) b) : v.IsTruth b :=
    Node.isTruth_of_bool? h.of_lift
  obtain ⟨found, hmembers, hrest⟩ := Visit.Yields.of_bind h
  obtain ⟨-, hgiven⟩ := of_members (by decide) hmembers
  split at hrest
  case h_1 =>
    obtain ⟨off, hwrite, hrest⟩ := hrest.of_bind
    obtain ⟨off', hparse, hrest⟩ := hrest.of_bind
    obtain ⟨off'', hverify, hrest⟩ := hrest.of_bind
    obtain ⟨write, hsaysWrite, rfl⟩ := of_orDefault (hgiven 0 _ rfl) hwrite htruth
    obtain ⟨parse, hsaysParse, rfl⟩ := of_orDefault (hgiven 1 _ rfl) hparse htruth
    obtain ⟨verify, hsaysVerify, rfl⟩ := of_orDefault (hgiven 2 _ rfl) hverify htruth
    exact ⟨⟨write, parse, verify⟩, ⟨hsaysWrite, hsaysParse, hsaysVerify⟩, hrest.of_pure.symm⟩
  case h_2 => exact absurd hrest Visit.not_yields_failure

theorem of_says_checksums {given : Node → Prop} {use? : Option ChecksumUse}
    (h : d.Says given (fun v use => ∃ s : Switches, s.Told d v ∧ s.use = use) use?) :
    ∃ s? : Option Switches, d.Says given (fun v s => s.Told d v) s? ∧
      use?.getD {} = (s?.getD {}).use := by
  cases use? with
  | none => exact ⟨none, h, rfl⟩
  | some use =>
    obtain ⟨v, hgiven, hleads, s, htold, rfl⟩ := h
    exact ⟨some s, ⟨v, hgiven, hleads, htold⟩, rfl⟩

theorem of_ofRoot {s : Settings} (h : Visit.Yields (ofRoot d) s) :
    ∃ said : Said, said.Told d ∧ s = said.settings := by
  obtain ⟨found, hmembers, hrest⟩ := Visit.Yields.of_bind h
  obtain ⟨-, hgiven⟩ := of_members (by decide) hmembers
  split at hrest
  case h_1 =>
    obtain ⟨_, hlogLevel, hrest⟩ := hrest.of_bind
    obtain ⟨_, hformat, hrest⟩ := hrest.of_bind
    obtain ⟨_, htimeout, hrest⟩ := hrest.of_bind
    obtain ⟨_, hdevice, hrest⟩ := hrest.of_bind
    obtain ⟨_, hchecksums, hrest⟩ := hrest.of_bind
    obtain ⟨logLevel, hsaysLogLevel, rfl⟩ := of_orDefault (hgiven 0 _ rfl) hlogLevel
      fun v s h => Node.text?_eq_some_iff.mp h.of_lift
    obtain ⟨format, hsaysFormat, rfl⟩ := of_orDefault (hgiven 1 _ rfl) hformat
      fun v f h => namesFormat_of_readFormat h.of_lift
    obtain ⟨timeout, hsaysTimeout, rfl⟩ := of_orDefault (hgiven 2 _ rfl) htimeout
      fun v t h => (Node.isNumber_of_nat? h.of_lift).1
    obtain ⟨device, hsaysDevice, rfl⟩ := of_orDefault (hgiven 3 _ rfl) hdevice
      fun v x h => describes_of_readDevice h
    obtain ⟨use?, hsaysUse, rfl⟩ := of_orDefault (hgiven 4 _ rfl) hchecksums
      fun v use h => of_readChecksums h
    obtain ⟨switches, hsaysSwitches, huse⟩ := of_says_checksums hsaysUse
    refine ⟨⟨logLevel, format, timeout, device, switches⟩, ?_, ?_⟩
    · exact ⟨hsaysLogLevel, hsaysFormat, hsaysTimeout, hsaysDevice, hsaysSwitches⟩
    · rw [hrest.of_pure, huse]
      rfl
  case h_2 => exact absurd hrest Visit.not_yields_failure

theorem of_ofText? {text : String} {s : Settings} (h : ofText? text = some s) :
    ∃ said : Said, said.SaidIn (some text) ∧ s = said.settings := by
  obtain ⟨documents, hdocuments, hrest⟩ := Option.bind_eq_some_iff.mp h
  split at hrest
  case h_1 => exact ⟨{}, .inl ⟨hdocuments, rfl⟩, (Option.some.inj hrest).symm⟩
  case h_2 d =>
    obtain ⟨said, htold, rfl⟩ := of_ofRoot (Visit.yields_of_run hrest)
    exact ⟨said, .inr ⟨d, hdocuments, htold⟩, rfl⟩
  case h_3 => cases hrest

end Settings
end HybridInverter
