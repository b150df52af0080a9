import HybridInverter.Proofs.Yaml.Scalar
import Mathlib.Data.List.Forall2

/-!
Where the aliases of a document lead, and what its mappings say. A key of a mapping is the text that
it stands for, itself or through an alias; what is read through an alias is read from the node that it
leads to.
-/
namespace HybridInverter
namespace Yaml

variable {α β : Type}

namespace Visit

/-- The visit can end with a result, however many aliases may still be followed. -/
def Yields (visit : Visit α) (a : α) : Prop :=
  ∃ left left', StateT.run visit left = some (a, left')

theorem yields_of_run {d : Document} {visit : Visit α} {a : α} (h : run d visit = some a) :
    Yields visit a := by
  obtain ⟨⟨a', left⟩, hrun, rfl⟩ := Option.map_eq_some_iff.mp h
  exact ⟨_, left, hrun⟩

theorem Yields.of_pure {a b : α} (h : Yields (pure a) b) : b = a := by
  obtain ⟨left, left', hrun⟩ := h
  rw [StateT.run_pure] at hrun
  exact (Prod.mk.inj (Option.some.inj hrun)).1.symm

theorem not_yields_failure {a : α} : ¬ Yields failure a := by
  rintro ⟨left, left', hrun⟩
  cases hrun

theorem Yields.of_bind {x : Visit α} {f : α → Visit β} {b : β} (h : Yields (x >>= f) b) :
    ∃ a, Yields x a ∧ Yields (f a) b := by
  obtain ⟨left, left', hrun⟩ := h
  rw [StateT.run_bind] at hrun
  obtain ⟨⟨a, between⟩, hx, hf⟩ := Option.bind_eq_some_iff.mp hrun
  exact ⟨a, ⟨left, between, hx⟩, between, left', hf⟩

theorem Yields.of_lift {o : Option α} {a : α} (h : Yields (liftM o) a) : o = some a := by
  obtain ⟨left, left', hrun⟩ := h
  obtain ⟨a', ho, hpair⟩ := Option.bind_eq_some_iff.mp hrun
  rw [← (Prod.mk.inj (Option.some.inj hpair)).1]
  exact ho

theorem Yields.of_mapM {f : α → Visit β} {l : List α} {l' : List β} (h : Yields (l.mapM f) l') :
    List.Forall₂ (fun a b => Yields (f a) b) l l' := by
  induction l generalizing l' with
  | nil =>
    obtain rfl := Yields.of_pure h
    exact .nil
  | cons a l ih =>
    rw [List.mapM_cons] at h
    obtain ⟨b, hb, hrest⟩ := h.of_bind
    obtain ⟨bs, hbs, hpure⟩ := hrest.of_bind
    obtain rfl := hpure.of_pure
    exact .cons hb (ih hbs)

end Visit

namespace Document

variable {d : Document} {n n' : Node}

/-- The node that is meant: the node itself, or the one that an alias leads to. -/
def Leads (d : Document) : Node → Node → Prop
  | .alias place, n' => d.target? place = some n'
  | n, n' => n' = n

theorem leads_of_follow (h : Visit.Yields (Visit.follow d n) n') : d.Leads n n' := by
  cases n with
  | «alias» place =>
    obtain ⟨left, -, hrest⟩ := Visit.Yields.of_bind h
    cases left with
    | zero => exact absurd hrest Visit.not_yields_failure
    | succ left =>
      obtain ⟨-, -, htarget⟩ := Visit.Yields.of_bind hrest
      exact htarget.of_lift
  | scalar tag style text => exact Visit.Yields.of_pure h
  | sequence tag items => exact Visit.Yields.of_pure h
  | mapping tag entries => exact Visit.Yields.of_pure h

theorem Leads.unique {n₁ n₂ : Node} (h₁ : d.Leads n n₁) (h₂ : d.Leads n n₂) : n₁ = n₂ := by
  cases n with
  | «alias» place => exact Option.some.inj (Eq.trans (Eq.symm h₁) h₂)
  | scalar tag style text => exact Eq.trans h₁ (Eq.symm h₂)
  | sequence tag items => exact Eq.trans h₁ (Eq.symm h₂)
  | mapping tag entries => exact Eq.trans h₁ (Eq.symm h₂)

theorem leads_of_whole {depth : Nat} (h : Visit.Yields (Visit.whole d depth n) n') :
    d.Leads n n' := by
  have hkept {α : Type} {m : Node} {x : Visit α}
      (h : Visit.Yields (x >>= fun _ => pure m) n') : n' = m := by
    obtain ⟨_, -, hpure⟩ := h.of_bind
    exact hpure.of_pure
  have hchecked {α : Type} {c : Prop} [Decidable c] {m : Node} {x : Visit α}
      (h : Visit.Yields (if c then failure else x >>= fun _ => pure m) n') : n' = m := by
    by_cases hc : c
    · rw [if_pos hc] at h
      exact absurd h Visit.not_yields_failure
    · rw [if_neg hc] at h
      exact hkept h
  -- No equation of `whole` is at hand, since what it recurs on is only looked at behind a step.
  have hwhole : ∃ m, d.Leads n m ∧ n' = m := by
    cases depth with
    | zero =>
      delta Visit.whole at h
      obtain ⟨m, hfollow, hrest⟩ := Visit.Yields.of_bind h
      refine ⟨m, leads_of_follow hfollow, ?_⟩
      cases m with
      | scalar tag style text => exact hkept hrest
      | _ => exact absurd hrest Visit.not_yields_failure
    | succ depth =>
      delta Visit.whole at h
      obtain ⟨m, hfollow, hrest⟩ := Visit.Yields.of_bind h
      refine ⟨m, leads_of_follow hfollow, ?_⟩
      cases m with
      | scalar tag style text => exact hkept hrest
      | sequence tag items => exact hchecked hrest
      | mapping tag entries => exact hchecked hrest
      | «alias» place => exact absurd hrest Visit.not_yields_failure
  obtain ⟨m, hleads, rfl⟩ := hwhole
  exact hleads

def IsKey (d : Document) (n : Node) (key : String) : Prop :=
  ∃ n', d.Leads n n' ∧ n'.IsText key

def Gives (d : Document) (n : Node) (key : String) (v : Node) : Prop :=
  ∃ tag entries, n = .mapping tag entries ∧ ∃ k, (k, v) ∈ entries ∧ d.IsKey k key

/-- Nothing is said where nothing is given; else all that is given is one node, which says it. -/
def Says (d : Document) (given : Node → Prop) (Reads : Node → α → Prop) : Option α → Prop
  | none => ∀ v, ¬ given v
  | some a => ∃ v', (∃ v, given v) ∧ (∀ v, given v → d.Leads v v') ∧ Reads v' a

theorem isKey_iff_of_leads {key : String} (h : d.Leads n n') : d.IsKey n key ↔ n'.IsText key := by
  constructor
  · rintro ⟨n₂, hleads, htext⟩
    rwa [h.unique hleads]
  · intro htext
    exact ⟨n', h, htext⟩

/-- A node to which all that is given leads, if anything is given. -/
def Means (d : Document) (given : Node → Prop) : Option Node → Prop
  | none => ∀ v, ¬ given v
  | some v' => (∃ v, given v) ∧ ∀ v, given v → d.Leads v v'

theorem Means.toSays {given : Node → Prop} {Reads : Node → α → Prop} {v : Node} {a : α}
    (h : d.Means given (some v)) (hreads : Reads v a) : d.Says given Reads (some a) :=
  ⟨v, h.1, h.2, hreads⟩

theorem means_iff {given : Node → Prop} {member : Option Node} :
    d.Means given member ↔ (∀ v, given v → ∃ v', d.Leads v v' ∧ member = some v') ∧
      ∀ v', member = some v' → ∃ v, given v := by
  cases member with
  | none => simp [Means]
  | some v' => simp [Means, and_comm]

end Document
end Yaml
end HybridInverter
