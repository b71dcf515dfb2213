import ImageOperator.Proofs.Session.Stores

set_option autoImplicit false

/-!
In every store of a session each object stands under its own key, whatever commands were given.
-/

namespace ImageOperator

namespace Depot

/-- Every object of the store stands under its own key. -/
def IsFiled (depot : Depot) : Prop :=
  depot.objects.Filed

end Depot

theorem filed_lasts : Lasts fun _ objects => objects.Filed :=
  ⟨fun _ _ held => absurd held List.not_mem_nil, fun persists filed => persists.filed filed⟩

theorem filed_gains : Gains fun _ objects => objects.Filed :=
  fun _ _ _ _ _ adds filed => adds.filed filed

namespace Session

/-- Every object of every store stands under its own key. -/
def Filed (session : Session) : Prop :=
  ∀ depot ∈ session.depots, depot.IsFiled

theorem Filed.depot {session : Session} (filed : session.Filed) (index : Nat) : (session.depot index).IsFiled := by
  unfold Session.depot
  cases there : session.depots[index]? with
  | none => exact fun entry held => absurd held List.not_mem_nil
  | some depot => exact filed depot (List.mem_of_getElem? there)

theorem filed_iff_each {session : Session} : session.Filed ↔ session.Each fun _ objects => objects.Filed := by
  refine ⟨fun filed index => filed.depot index, fun each depot held => ?_⟩
  obtain ⟨index, there⟩ := List.mem_iff_getElem?.mp held
  have own := each index
  simp only [Depot.Has, Session.depot, there, Option.getD_some] at own
  exact own

theorem maintains_reconcile (id : ObjectId) : (reconcile id).Maintains Filed :=
  fun session filed => filed_iff_each.mpr (each_reconcile filed_lasts id session (filed_iff_each.mp filed))

theorem step_filed (command : Command) : (step command).Maintains Filed := by
  intro session filed
  exact filed_iff_each.mpr (step_each filed_lasts command (fun _ => filed_gains) session (filed_iff_each.mp filed))

end Session

end ImageOperator
