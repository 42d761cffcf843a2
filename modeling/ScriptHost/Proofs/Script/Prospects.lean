import ScriptHost.Proofs.Script.Unfolding

/-! What is to come of copying something out of an engine: the outcome and its price, if it can be had
at all. An action that meets this gives the outcome where the price can be paid and is refused
otherwise; of two in a row the prices add up. -/

namespace ScriptHost.Script

namespace Heap

variable (h : Heap) (retained : Retained) (activations : List Activation) (depth : Nat)

theorem layout?_apart (r : Ref) : (h.apart retained activations depth).layout? r = h.layout? r := by
  unfold layout?
  simp only [settled?_apart, listed_apart]
  rfl

end Heap

namespace Session

/-- The session's heap is this one, but for the functions that are kept and for calls under way. -/
def Holds (s : Session) (h : Heap) (retained : Retained) : Prop :=
  ∃ activations depth, s.heap = h.apart retained activations depth

namespace Holds

variable {s : Session} {h : Heap} {retained : Retained}

theorem self (s : Session) : s.Holds s.heap s.heap.retained := ⟨s.heap.activations, s.heap.depth, rfl⟩

theorem retained_eq (holds : s.Holds h retained) : s.heap.retained = retained := by
  obtain ⟨activations, depth, same⟩ := holds
  rw [same]
  rfl

theorem left (holds : s.Holds h retained) : (s.left s.heap).Holds h retained := by
  obtain ⟨activations, depth, same⟩ := holds
  refine ⟨[], 0, ?_⟩
  unfold Session.left
  rw [same]
  rfl

theorem settled? (holds : s.Holds h retained) (r : Ref) (k : Key) :
    s.heap.settled? r k = h.settled? r k := by
  obtain ⟨activations, depth, same⟩ := holds
  rw [same, Heap.settled?_apart]

theorem layout? (holds : s.Holds h retained) (r : Ref) : s.heap.layout? r = h.layout? r := by
  obtain ⟨activations, depth, same⟩ := holds
  rw [same, Heap.layout?_apart]

theorem kind (holds : s.Holds h retained) (r : Ref) : s.heap.kind r = h.kind r := by
  obtain ⟨activations, depth, same⟩ := holds
  rw [same]
  rfl

theorem listed (holds : s.Holds h retained) (r : Ref) : s.heap.listed r = h.listed r := by
  obtain ⟨activations, depth, same⟩ := holds
  rw [same, Heap.listed_apart]

end Holds

end Session

namespace Host

variable {α β : Type} {m : Host α} {f : α → Host β} {s u : Session} {a : α} {h : Heap}
  {retained : Retained}

theorem after_bind_ok (ran : after m s = (.ok a, u)) : after (m >>= f) s = after (f a) u := by
  rw [after_bind, ran]

/-- The action fails with a range error. -/
def Refused (m : Host α) (s : Session) : Prop :=
  ∃ message u, after m s = (.error (.exception { message, name := some "RangeError" }), u)

namespace Refused

theorem rangeError (message : String) (s : Session) : Refused (rangeError message : Host α) s :=
  ⟨message, s, rfl⟩

theorem first (refused : Refused m s) (f : α → Host β) : Refused (m >>= f) s := by
  obtain ⟨message, u, ran⟩ := refused
  refine ⟨message, u, ?_⟩
  rw [after_bind, ran]

theorem later (ran : after m s = (.ok a, u)) (refused : Refused (f a) u) : Refused (m >>= f) s := by
  obtain ⟨message, w, rest⟩ := refused
  exact ⟨message, w, (after_bind_ok ran).trans rest⟩

end Refused

/-! ### What is to come -/

/-- What is to come of an action: what it gives, the functions that are kept then, and the number of
values to be paid. -/
abbrev Prospect (α : Type) := Option (α × Retained × Nat)

/-- The action does what is to come of it, if that can be paid, and is refused otherwise. It leaves the
heap as it was, but for the functions that are kept. -/
def Meets (h : Heap) (m : Host α) (s : Session) (prospect : Prospect α) : Prop :=
  match prospect with
  | some (a, kept, cost) =>
    if cost ≤ s.nodesLeft then
      ∃ u, after m s = (.ok a, u) ∧ u.Holds h kept ∧ u.nodesLeft + cost = s.nodesLeft
    else Refused m s
  | none => Refused m s

namespace Meets

variable {prospect : Prospect α}

theorem cast {other : Prospect α} (same : prospect = other) (meets : Meets h m s prospect) :
    Meets h m s other := same ▸ meets

theorem pure (holds : s.Holds h retained) (a : α) :
    Meets h (pure a) s (some (a, retained, 0)) := by
  unfold Meets
  dsimp only
  rw [if_pos (Nat.zero_le _)]
  exact ⟨s, rfl, holds, rfl⟩

/-- Something that costs nothing is done first. -/
theorem free {prospect : Prospect β} (ran : after m s = (.ok a, u))
    (same : u.nodesLeft = s.nodesLeft) (rest : Meets h (f a) u prospect) :
    Meets h (m >>= f) s prospect := by
  unfold Meets at *
  rw [after_bind_ok ran, ← same]
  cases prospect with
  | none => exact rest.later ran
  | some done =>
    dsimp only at rest ⊢
    split at rest
    · rename_i paid
      rw [if_pos paid]
      exact rest
    · rename_i unpaid
      rw [if_neg unpaid]
      exact rest.later ran

theorem bind (first : Meets h m s prospect) (more : α → Retained → Prospect β)
    (rest : ∀ a kept cost u, prospect = some (a, kept, cost) → u.Holds h kept →
      u.nodesLeft + cost = s.nodesLeft → Meets h (f a) u (more a kept)) :
    Meets h (m >>= f) s (prospect.bind fun (a, kept, cost) =>
      (more a kept).map fun (b, kept, other) => (b, kept, cost + other)) := by
  cases prospect with
  | none => exact Refused.first first f
  | some done =>
    obtain ⟨a, kept, cost⟩ := done
    unfold Meets at first
    dsimp only at first
    split at first
    · obtain ⟨u, ran, holds, paid⟩ := first
      have others := rest a kept cost u rfl holds paid
      unfold Meets at others ⊢
      dsimp only [Option.bind_some]
      -- What is paid first is paid in any case; it is the rest that decides.
      cases known : more a kept with
      | none =>
        rw [known] at others
        exact Refused.later ran others
      | some done =>
        obtain ⟨b, last, other⟩ := done
        rw [known] at others
        dsimp only [Option.map_some] at others ⊢
        split at others
        · obtain ⟨w, ended, holds, spent⟩ := others
          rw [if_pos (by omega), after_bind_ok ran]
          exact ⟨w, ended, holds, by omega⟩
        · rw [if_neg (by omega)]
          exact Refused.later ran others
    -- The first part alone costs more than is left, so with the rest it does too.
    · have refused := Refused.first first f
      unfold Meets
      dsimp only [Option.bind_some]
      cases more a kept with
      | none => exact refused
      | some done =>
        dsimp only [Option.map_some]
        rw [if_neg (by omega)]
        exact refused

theorem map {g : α → β} (first : Meets h m s prospect) :
    Meets h (m >>= fun a => Pure.pure (g a)) s
      (prospect.map fun (a, kept, cost) => (g a, kept, cost)) := by
  refine .cast ?_ (first.bind (fun a kept => some (g a, kept, 0))
    fun a kept cost u _ holds _ => .pure holds (g a))
  cases prospect <;> rfl

/-- Something is refused that could not be paid anyhow. -/
theorem of_refused (refused : Refused m s)
    (dear : ∀ a kept cost, prospect = some (a, kept, cost) → s.nodesLeft < cost) :
    Meets h m s prospect := by
  cases prospect with
  | none => exact refused
  | some done =>
    obtain ⟨a, kept, cost⟩ := done
    have more := dear a kept cost rfl
    unfold Meets
    dsimp only
    rw [if_neg (by omega)]
    exact refused

end Meets

end Host

end ScriptHost.Script
