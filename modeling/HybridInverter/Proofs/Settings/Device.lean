import HybridInverter.Proofs.List
import HybridInverter.Proofs.Yaml.Visit
import HybridInverter.Settings.Document

/-!
What a document says about a device, apart from how it is read. A device is described by a kind and
by parts, each with a name and a place: in a mapping under keys that stand for either, in a sequence
in their order. Whatever is read as a device is described so.
-/
namespace HybridInverter
namespace Settings

open Yaml

variable {d : Document} {n : Node} {keys : List String}

/-- Values taken to their places one by one, none of them to a place that is taken already; those
without a place are passed over. -/
inductive Filled : List (Option Node) → List (Option Nat × Node) → List (Option Node) → Prop
  | done {found : List (Option Node)} : Filled found [] found
  | pass {found found' : List (Option Node)} {v : Node} {steps : List (Option Nat × Node)}
      (hrest : Filled found steps found') : Filled found ((none, v) :: steps) found'
  | take {found found' : List (Option Node)} {place : Nat} {v : Node}
      {steps : List (Option Nat × Node)} (hlt : place < found.length)
      (hfree : found[place]?.join = none) (hrest : Filled (found.set place (some v)) steps found') :
      Filled found ((some place, v) :: steps) found'

theorem Filled.length_eq {found found' : List (Option Node)} {steps : List (Option Nat × Node)}
    (h : Filled found steps found') : found'.length = found.length := by
  induction h with
  | done => rfl
  | pass _ ih => exact ih
  | take _ _ _ ih => rw [ih, List.length_set]

theorem Filled.join_eq_some_iff {found found' : List (Option Node)}
    {steps : List (Option Nat × Node)} (h : Filled found steps found') (i : Nat) (w : Node) :
    found'[i]?.join = some w ↔ found[i]?.join = some w ∨ (some i, w) ∈ steps := by
  induction h with
  | done => simp
  | pass _ ih => simp [ih]
  | @take found found' place v steps hlt hfree _ ih =>
    rw [ih, List.mem_cons, Prod.mk.injEq, Option.some_inj, ← or_assoc]
    refine or_congr_left ?_
    by_cases hplace : place = i
    · subst hplace
      simp [List.getElem?_set_self hlt, hfree, eq_comm]
    · have hplace' : i ≠ place := fun h => hplace h.symm
      simp [List.getElem?_set_ne hplace, hplace']

theorem filled_of_empty {found : List (Option Node)} {steps : List (Option Nat × Node)}
    (h : Filled (keys.map fun _ => none) steps found) : found.length = keys.length ∧
      ∀ (i : Nat) (w : Node), found[i]?.join = some w ↔ (some i, w) ∈ steps := by
  refine ⟨by rw [h.length_eq, List.length_map], fun i w => ?_⟩
  have hnone : (keys.map fun _ => (none : Option Node))[i]?.join = none := by
    rw [List.getElem?_map]
    cases keys[i]? <;> rfl
  rw [h.join_eq_some_iff, hnone]
  simp

theorem getElem?_of_idxOf? {text : String} {place : Nat} (h : keys.idxOf? text = some place) :
    keys[place]? = some text := by
  obtain ⟨hlt, htext, -⟩ := List.idxOf?_eq_some_iff.mp h
  rw [List.getElem?_eq_getElem hlt, htext]

theorem idxOf?_eq_some_iff_of_nodup (hkeys : keys.Nodup) {text key : String} {i : Nat}
    (hi : keys[i]? = some key) : keys.idxOf? text = some i ↔ text = key := by
  constructor
  · intro h
    exact Option.some.inj ((getElem?_of_idxOf? h).symm.trans hi)
  · rintro rfl
    obtain ⟨place, hplace⟩ := Option.ne_none_iff_exists'.mp fun hnone =>
      List.idxOf?_eq_none_iff.mp hnone (List.mem_of_getElem? hi)
    have hlt := (List.getElem?_eq_some_iff.mp hi).1
    rw [hplace, (List.getElem?_inj hlt hkeys).mp (hi.trans (getElem?_of_idxOf? hplace).symm)]

/-- The kind of a device, under its key or in front of the parts. -/
def GivesKind (d : Document) (n v : Node) : Prop :=
  d.Gives n "type" v ∨ ∃ tag items, n = .sequence tag (v :: items)

/-- A part of a device, under its name or the number of its place, or at its place behind the kind. -/
def GivesPart (d : Document) (n : Node) (name : String) (place : Nat) (v : Node) : Prop :=
  (∃ tag entries, n = .mapping tag entries ∧ ∃ k k', (k, v) ∈ entries ∧ d.Leads k k' ∧
    (k'.IsText name ∨ k'.IsPlace place)) ∨
  ∃ tag kind items, n = .sequence tag (kind :: items) ∧ items[place]? = some v

namespace Description

/-- What an entry of a description is read as. -/
structure EntryOf (d : Document) (entry : Node × Node) (e : Value × Node) : Prop where
  key : ∃ k, d.Leads entry.1 k ∧ k.value? = some e.1
  leads : d.Leads entry.2 e.2
  isKey : e.1.IsKey

theorem of_entry {depth : Nat} {e : Node × Node} {e' : Value × Node}
    (h : Visit.Yields (entry d depth e) e') : EntryOf d e e' := by
  obtain ⟨k, hwhole, h⟩ := h.of_bind
  obtain ⟨key, hkey, h⟩ := h.of_bind
  have hkey : ∃ k, d.Leads e.1 k ∧ k.value? = some key :=
    ⟨k, Document.leads_of_whole hwhole, hkey.of_lift⟩
  by_cases hkind : key = kindKey
  · rw [if_pos hkind] at h
    obtain ⟨v, hfollow, h⟩ := h.of_bind
    obtain rfl := h.of_pure
    exact ⟨hkey, Document.leads_of_follow hfollow, hkind ▸ .text "type"⟩
  · rw [if_neg hkind] at h
    by_cases hmay : mayBeKey key
    · rw [if_pos hmay] at h
      obtain ⟨v, hwhole, h⟩ := h.of_bind
      obtain rfl := h.of_pure
      refine ⟨hkey, Document.leads_of_whole hwhole, ?_⟩
      cases key with
      | text s => exact .text s
      | natural m => exact .natural m
      | _ => cases hmay
    · rw [if_neg hmay] at h
      exact absurd h Visit.not_yields_failure

namespace EntryOf

variable {entry : Node × Node} {e : Value × Node} {name : String} {i : Nat}

theorem isKey_iff (h : EntryOf d entry e) (hname : ∀ m, ¬ Unsigned name.toList m) :
    d.IsKey entry.1 name ↔ e.1 = .text name := by
  obtain ⟨k, hleads, hvalue⟩ := h.key
  rw [Document.isKey_iff_of_leads hleads, Node.isText_iff_of_value? hvalue hname h.isKey]

theorem isPart_iff (h : EntryOf d entry e) (hname : ∀ m, ¬ Unsigned name.toList m)
    (hi : i ≤ Numeral.unsigned 64) :
    (∃ k', d.Leads entry.1 k' ∧ (k'.IsText name ∨ k'.IsPlace i)) ↔
      e.1 = .text name ∨ e.1 = .natural i := by
  obtain ⟨k, hleads, hvalue⟩ := h.key
  rw [← Node.isText_iff_of_value? hvalue hname h.isKey,
    ← Node.isPlace_iff_of_value? hvalue hi h.isKey]
  constructor
  · rintro ⟨k', hleads', hpart⟩
    rwa [hleads.unique hleads']
  · intro hpart
    exact ⟨k, hleads, hpart⟩

end EntryOf

theorem placeOf_eq_some_iff (hkeys : keys.Nodup) {key : String} {i : Nat} (hi : keys[i]? = some key)
    (v : Value) : placeOf keys v = some i ↔ v = .text key ∨ v = .natural i := by
  have hlt := (List.getElem?_eq_some_iff.mp hi).1
  cases v with
  | text name => simp [placeOf, idxOf?_eq_some_iff_of_nodup hkeys hi]
  | natural n =>
    by_cases hn : n < keys.length
    · simp [placeOf, hn]
    · have hne : n ≠ i := by omega
      simp [placeOf, hn, hne]
  | _ => simp [placeOf]

theorem placeOf_lt {v : Value} {place : Nat} (h : placeOf keys v = some place) :
    place < keys.length := by
  cases v with
  | text name => exact (List.idxOf?_eq_some_iff.mp h).1
  | natural n =>
    by_cases hn : n < keys.length
    · simp only [placeOf, hn, if_true, Option.some_inj] at h
      omega
    · simp [placeOf, hn] at h
  | _ => cases h

theorem filled_of_keyed {keyed : List (Value × Node)} {found found' : List (Option Node)}
    (hlength : found.length = keys.length)
    (h : keyed.foldlM (fun found e =>
      match placeOf keys e.1 with
      | none => some found
      | some place => if (found[place]?.join).isSome then none else some (found.set place e.2))
      found = some found') :
    Filled found (keyed.map fun e => (placeOf keys e.1, e.2)) found' := by
  induction keyed generalizing found with
  | nil =>
    obtain rfl := Option.some.inj h
    exact .done
  | cons e keyed ih =>
    rw [List.foldlM_cons] at h
    obtain ⟨between, hfirst, hrest⟩ := Option.bind_eq_some_iff.mp h
    rw [List.map_cons]
    cases hplace : placeOf keys e.1 with
    | none =>
      rw [hplace] at hfirst
      obtain rfl := Option.some.inj hfirst
      exact .pass (ih hlength hrest)
    | some place =>
      simp only [hplace] at hfirst
      by_cases hfree : (found[place]?.join).isSome
      · simp [hfree] at hfirst
      · simp only [hfree, Bool.false_eq_true, if_false, Option.some_inj] at hfirst
        subst hfirst
        have hset : (found.set place e.2).length = keys.length :=
          (List.length_set ..).trans hlength
        exact .take (hlength ▸ placeOf_lt hplace) (by simpa using hfree) (ih hset hrest)

structure ArePartNames (keys : List String) : Prop where
  nodup : keys.Nodup
  ne_kind : ∀ key ∈ keys, key ≠ "type"
  not_unsigned : ∀ key ∈ keys, ∀ m, ¬ Unsigned key.toList m
  length_le : keys.length ≤ Numeral.unsigned 64

variable {description : Description} {found : List (Option Node)}

/-- A kind is read, and the members for part names are what the parts mean. -/
structure ReadFrom (d : Document) (n : Node) (description : Description) : Prop where
  kind : d.Says (GivesKind d n) Node.IsText (some description.kind)
  parts : ∀ {keys : List String} {found : List (Option Node)}, ArePartNames keys →
    description.members keys = some found → ∀ (i : Nat) (key : String), keys[i]? = some key →
      d.Means (GivesPart d n key i) found[i]?.join

/-- What is given by those entries whose keys are read as such is the value that is found. -/
theorem means_of_entries {entries : List (Node × Node)} {keyed : List (Value × Node)}
    (hentries : List.Forall₂ (EntryOf d) entries keyed) {given : Node → Prop}
    {member : Option Node} {P : Node → Prop} {Q : Value → Prop}
    (hgiven : ∀ w, given w ↔ ∃ k, (k, w) ∈ entries ∧ P k)
    (hkey : ∀ entry e, EntryOf d entry e → (P entry.1 ↔ Q e.1))
    (hmember : ∀ v, member = some v ↔ ∃ e ∈ keyed, Q e.1 ∧ e.2 = v) : d.Means given member := by
  refine Document.means_iff.mpr ⟨fun w hw => ?_, fun v hv => ?_⟩
  · obtain ⟨k, hmem, hk⟩ := (hgiven w).mp hw
    obtain ⟨e, he, hentry⟩ := Lists.exists_of_mem_of_forall₂ hentries hmem
    exact ⟨e.2, hentry.leads, (hmember e.2).mpr ⟨e, he, (hkey _ _ hentry).mp hk, rfl⟩⟩
  · obtain ⟨e, he, hQ, -⟩ := (hmember v).mp hv
    obtain ⟨entry, hmem, hentry⟩ := Lists.exists_of_mem_of_forall₂ hentries.flip he
    exact ⟨entry.2, (hgiven entry.2).mpr ⟨entry.1, hmem, (hkey _ _ hentry).mpr hQ⟩⟩

theorem readFrom_mapping {tag : Option Tag} {entries : List (Node × Node)}
    {keyed : List (Value × Node)} {v : Value} {kindNode : Node} {kind : String}
    (hentries : List.Forall₂ (EntryOf d) entries keyed)
    (hfilter : keyed.filter (·.1 = kindKey) = [(v, kindNode)]) (hkind : kindNode.text? = some kind) :
    ReadFrom d (.mapping tag entries) { kind, keyed := keyed.filter (·.1 ≠ kindKey) } := by
  constructor
  · have htype : ∀ m, ¬ Unsigned "type".toList m := fun m =>
      Scalar.not_unsigned_cons (by decide) (by decide)
    have hmem (e : Value × Node) : e ∈ keyed ∧ e.1 = kindKey ↔ e = (v, kindNode) := by
      have hiff : e ∈ keyed.filter (·.1 = kindKey) ↔ e ∈ [(v, kindNode)] := by rw [hfilter]
      simpa using hiff
    have hmeans : d.Means (GivesKind d (.mapping tag entries)) (some kindNode) := by
      refine means_of_entries hentries (P := fun k => d.IsKey k "type") (Q := (· = kindKey)) ?_
        (fun entry e hentry => hentry.isKey_iff htype) fun w => ?_
      · intro w
        simp [GivesKind, Document.Gives]
      · constructor
        · rintro ⟨rfl⟩
          obtain ⟨hkeyed, hkey⟩ := (hmem (v, kindNode)).mpr rfl
          exact ⟨(v, kindNode), hkeyed, hkey, rfl⟩
        · rintro ⟨e, hkeyed, hkey, rfl⟩
          rw [(hmem e).mp ⟨hkeyed, hkey⟩]
    exact hmeans.toSays (Node.text?_eq_some_iff.mp hkind)
  · intro keys found hnames hmembers i key hi
    have hmem := List.mem_of_getElem? hi
    have hlt := (List.getElem?_eq_some_iff.mp hi).1
    obtain ⟨-, hfound⟩ := filled_of_empty (filled_of_keyed (List.length_map _) hmembers)
    refine means_of_entries hentries
      (P := fun k => ∃ k', d.Leads k k' ∧ (k'.IsText key ∨ k'.IsPlace i))
      (Q := fun v => v = .text key ∨ v = .natural i) ?_
      (fun entry e hentry => hentry.isPart_iff (hnames.not_unsigned key hmem)
        (Nat.le_trans (Nat.le_of_lt hlt) hnames.length_le)) fun w => ?_
    · intro w
      simp [GivesPart]
    · have hplace := placeOf_eq_some_iff hnames.nodup hi
      have hne : ∀ v, (v = .text key ∨ v = .natural i) → v ≠ kindKey := by
        rintro v (rfl | rfl) heq
        · exact hnames.ne_kind key hmem (Value.text.inj heq)
        · cases heq
      rw [hfound, List.mem_map]
      constructor
      · rintro ⟨e, he, heq⟩
        obtain ⟨hpart, rfl⟩ := Prod.mk.inj heq
        exact ⟨e, (List.mem_filter.mp he).1, (hplace e.1).mp hpart, rfl⟩
      · rintro ⟨e, he, hpart, rfl⟩
        exact ⟨e, List.mem_filter.mpr ⟨he, by simpa using hne e.1 hpart⟩,
          by rw [(hplace e.1).mpr hpart]⟩

theorem readFrom_sequence {tag : Option Tag} {kindNode kindNode' : Node} {items items' : List Node}
    {kind : String} (hkindNode : d.Leads kindNode kindNode') (hkind : kindNode'.text? = some kind)
    (hitems : List.Forall₂ d.Leads items items') :
    ReadFrom d (.sequence tag (kindNode :: items)) { kind, ordered := some items' } := by
  constructor
  · refine ⟨kindNode', ⟨kindNode, .inr ⟨tag, items, rfl⟩⟩, ?_, Node.text?_eq_some_iff.mp hkind⟩
    rintro w (⟨_, _, heq, -⟩ | ⟨_, _, heq⟩)
    · cases heq
    · cases heq
      exact hkindNode
  · intro keys found hnames hmembers i key hi
    obtain ⟨hlength, hleads⟩ := List.forall₂_iff_get.mp hitems
    have hfound : found[i]?.join = items'[i]? := by
      simp only [members] at hmembers
      split at hmembers
      case isTrue =>
        obtain rfl := Option.some.inj hmembers
        rw [List.getElem?_map]
        cases items'[i]? <;> rfl
      case isFalse => cases hmembers
    rw [hfound]
    refine Document.means_iff.mpr ⟨fun w hw => ?_, fun v hv => ?_⟩
    · rcases hw with ⟨_, _, heq, -⟩ | ⟨_, _, _, heq, hw⟩
      · cases heq
      · cases heq
        obtain ⟨hlt, rfl⟩ := List.getElem?_eq_some_iff.mp hw
        exact ⟨items'.get ⟨i, hlength ▸ hlt⟩, hleads i hlt (hlength ▸ hlt),
          List.getElem?_eq_getElem _⟩
    · obtain ⟨hlt, rfl⟩ := List.getElem?_eq_some_iff.mp hv
      exact ⟨items.get ⟨i, hlength ▸ hlt⟩,
        .inr ⟨tag, kindNode, items, rfl, List.getElem?_eq_getElem _⟩⟩

theorem readFrom_of_read (h : Visit.Yields (read d n) description) :
    ReadFrom d n description := by
  cases n with
  | mapping tag entries =>
    obtain ⟨keyed, hkeyed, h⟩ := Visit.Yields.of_bind h
    split at h
    case h_1 v kindNode _ hfilter =>
      obtain ⟨kind, hkind, h⟩ := h.of_bind
      obtain rfl := h.of_pure
      exact readFrom_mapping (hkeyed.of_mapM.imp fun _ _ => of_entry) hfilter hkind.of_lift
    case h_2 => exact absurd h Visit.not_yields_failure
  | sequence tag items =>
    cases items with
    | nil => exact absurd h Visit.not_yields_failure
    | cons kindNode items =>
      obtain ⟨kindNode', hfollow, h⟩ := Visit.Yields.of_bind h
      obtain ⟨kind, hkind, h⟩ := h.of_bind
      obtain ⟨items', hitems, h⟩ := h.of_bind
      split at h
      case isTrue => exact absurd h Visit.not_yields_failure
      case isFalse =>
        obtain rfl := h.of_pure
        exact readFrom_sequence (Document.leads_of_follow hfollow) hkind.of_lift
          (hitems.of_mapM.imp fun _ _ => Document.leads_of_whole)
  | scalar tag style text => exact absurd h Visit.not_yields_failure
  | «alias» place => exact absurd h Visit.not_yields_failure

theorem readText_isText {v : Node} {s : String} (h : readText v = some s) : v.IsText s := by
  unfold readText at h
  split at h
  case h_1 s' hvalue =>
    obtain ⟨text, htext, hspelled⟩ := Node.exists_spelled_of_value? hvalue
    obtain rfl := Option.some.inj h
    rwa [show s' = text from hspelled]
  case h_2 => cases h

theorem readPort_isNumber {v : Node} {port : Nat} (h : readPort v = some port) :
    v.IsNumber port ∧ port ≤ 65535 := by
  unfold readPort at h
  split at h
  case h_1 n hvalue =>
    obtain ⟨text, htext, hspelled⟩ := Node.exists_spelled_of_value? hvalue
    by_cases hn : n ≤ Numeral.unsigned 16
    · rw [if_pos hn] at h
      obtain rfl := Option.some.inj h
      exact ⟨⟨text, htext, .inl ⟨n, hspelled, rfl⟩⟩, hn⟩
    · simp [hn] at h
  case h_2 hvalue =>
    obtain ⟨text, htext, hspelled⟩ := Node.exists_spelled_of_value? hvalue
    obtain rfl := Option.some.inj h
    exact ⟨⟨text, htext, hspelled⟩, by decide⟩
  case h_3 => cases h

end Description

def IsSwitch (v : Node) : Option Bool → Prop
  | none => v.IsNull
  | some b => v.IsTruth b

/-- A node describes a device. A switch that is not there or says nothing is not set. -/
inductive Describes (d : Document) (n : Node) : Device → Prop
  | hidraw {path : String} (hkind : d.Says (GivesKind d n) Node.IsText (some "hidraw"))
      (hpath : d.Says (GivesPart d n "path" 0) Node.IsText (some path)) :
      Describes d n (.hidraw path)
  | tcp {host : String} {port : Nat} {noDelay : Option (Option Bool)}
      (hkind : d.Says (GivesKind d n) Node.IsText (some "tcp"))
      (hhost : d.Says (GivesPart d n "host" 0) Node.IsText (some host))
      (hport : d.Says (GivesPart d n "port" 1) (fun v (p : Nat) => v.IsNumber p) (some port))
      (hlimit : port ≤ 65535)
      (hnoDelay : d.Says (GivesPart d n "use_tcp_nodelay" 2) IsSwitch noDelay) :
      Describes d n (.tcp host port noDelay.join)

namespace Description

variable {description : Description}

theorem says_switch {given : Node → Prop} {member : Option Node} {noDelay : Option Bool}
    (hmeans : d.Means given member) (h : readSwitch member = some noDelay) :
    ∃ said : Option (Option Bool), d.Says given IsSwitch said ∧ said.join = noDelay := by
  cases member with
  | none => exact ⟨none, hmeans, Option.some.inj h⟩
  | some v =>
    simp only [readSwitch] at h
    split at h
    case h_1 hvalue =>
      obtain ⟨text, htext, hspelled⟩ := Node.exists_spelled_of_value? hvalue
      exact ⟨some none, hmeans.toSays ⟨text, htext, hspelled⟩, Option.some.inj h⟩
    case h_2 b hvalue =>
      obtain ⟨text, htext, hspelled⟩ := Node.exists_spelled_of_value? hvalue
      exact ⟨some (some b), hmeans.toSays ⟨text, htext, hspelled⟩, Option.some.inj h⟩
    case h_3 => cases h

theorem arePartNames_hidraw : ArePartNames ["path"] where
  nodup := by decide
  ne_kind := by decide
  not_unsigned := by simpa using fun m => Scalar.not_unsigned_cons (by decide) (by decide)
  length_le := by decide

theorem arePartNames_tcp : ArePartNames ["host", "port", "use_tcp_nodelay"] where
  nodup := by decide
  ne_kind := by decide
  not_unsigned := by
    simp only [List.forall_mem_cons]
    exact ⟨fun m => Scalar.not_unsigned_cons (by decide) (by decide),
      fun m => Scalar.not_unsigned_cons (by decide) (by decide),
      fun m => Scalar.not_unsigned_cons (by decide) (by decide), by simp⟩
  length_le := by decide

theorem describes_of_device {x : Device} (hread : ReadFrom d n description)
    (h : description.device = some x) : Describes d n x := by
  have hkind := hread.kind
  unfold device at h
  by_cases hhidraw : description.kind = "hidraw"
  · rw [if_pos hhidraw] at h
    rw [hhidraw] at hkind
    obtain ⟨found, hmembers, h⟩ := Option.bind_eq_some_iff.mp h
    have hparts := hread.parts arePartNames_hidraw hmembers
    split at h
    case h_1 _ path =>
      obtain ⟨s, hpath, hx⟩ := Option.bind_eq_some_iff.mp h
      obtain rfl := Option.some.inj hx
      exact .hidraw hkind ((hparts 0 "path" rfl).toSays (readText_isText hpath))
    case h_2 => cases h
  · rw [if_neg hhidraw] at h
    by_cases htcp : description.kind = "tcp"
    · rw [if_pos htcp] at h
      rw [htcp] at hkind
      obtain ⟨found, hmembers, h⟩ := Option.bind_eq_some_iff.mp h
      have hparts := hread.parts arePartNames_tcp hmembers
      split at h
      case h_1 _ host port noDelay =>
        obtain ⟨s, hhost, h⟩ := Option.bind_eq_some_iff.mp h
        obtain ⟨p, hport, h⟩ := Option.bind_eq_some_iff.mp h
        obtain ⟨b, hnoDelay, hx⟩ := Option.bind_eq_some_iff.mp h
        obtain rfl := Option.some.inj hx
        obtain ⟨hnumber, hlimit⟩ := readPort_isNumber hport
        obtain ⟨said, hsays, rfl⟩ := says_switch (hparts 2 "use_tcp_nodelay" rfl) hnoDelay
        exact .tcp hkind ((hparts 0 "host" rfl).toSays (readText_isText hhost))
          ((hparts 1 "port" rfl).toSays hnumber) hlimit hsays
      case h_2 => cases h
    · rw [if_neg htcp] at h
      cases h

end Description

theorem describes_of_readDevice {x : Device} (h : Visit.Yields (readDevice d n) x) :
    Describes d n x := by
  obtain ⟨description, hread, hdevice⟩ := h.of_bind
  exact Description.describes_of_device (Description.readFrom_of_read hread) hdevice.of_lift

end Settings
end HybridInverter
