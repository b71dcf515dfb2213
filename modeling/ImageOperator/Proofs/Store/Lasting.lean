import ImageOperator.Proofs.Image.Reading
import ImageOperator.Proofs.Store.Crash

set_option autoImplicit false

/-!
What outlasts a restart. An object that a request has left in a store is there again when the store is opened anew, as
what its document is read as; so it is marked for deletion then if its mark counts as true.
-/

namespace ImageOperator

namespace Depot

section

variable {disk : Disk} {tree : Tree} {image again : Image} {path : Path} {key : ObjectKey}

/-- An image that was persisted, and is not to go, is in the catalog and on the disk. -/
theorem persist_keeps {depot : Depot} (staying : leaves image = false) (known : image.id.key? = some key)
    (done : (persist image depot).result = .ok ()) :
    (persist image depot).state.objects = depot.objects.put key image ∧
      Wrote image depot.disk (persist image depot).state.disk := by
  have files := persist_files image depot
  rw [done] at files
  cases files with
  | removed _ _ leaving =>
    rw [staying] at leaving
    cases leaving
  | written own _ _ objects wrote =>
    obtain rfl := Option.some.inj (own.symm.trans known)
    exact ⟨objects, wrote⟩

theorem addWritten_keeps {depot : Depot} (known : image.id.key? = some key)
    (done : (addWritten image depot).result = .ok ()) :
    (addWritten image depot).state.objects = depot.objects.put key image ∧
      Wrote image depot.disk (addWritten image depot).state.disk := by
  have lays := addWritten_lays known depot
  rw [done] at lays
  cases lays with
  | laid own objects wrote =>
    obtain rfl := Option.some.inj (own.symm.trans known)
    exact ⟨objects, wrote⟩

/-- A request that is done has the image that it was to leave in the catalog and on the disk. -/
theorem Request.keeps {depot : Depot} {request : Request} (handed : request.image? depot = some image)
    (stays : request.outcome image = some image) (known : image.id.key? = some key)
    (done : (request.run depot).result = .ok ()) :
    (request.run depot).state.objects = depot.objects.put key image ∧
      Wrote image depot.disk (request.run depot).state.disk := by
  have kept : request.takesAway image = false := by
    unfold outcome at stays
    split at stays
    · cases stays
    · rename_i keeps
      exact Bool.not_eq_true _ ▸ keeps
  cases request with
  | add other =>
    obtain rfl := Option.some.inj handed
    exact addWritten_keeps known done
  | persist other =>
    obtain rfl := Option.some.inj handed
    exact persist_keeps kept known done
  | delete id now =>
    have deletes := requestDeletion_deletes id now depot
    simp only [run] at done ⊢
    simp only [image?] at handed
    generalize requestDeletion id now depot = outcome at deletes done
    cases deletes with
    | unknown | absent => cases done
    | handed given stored =>
      rw [given, Option.bind_some, stored] at handed
      obtain rfl := Option.some.inj handed
      exact persist_keeps kept known done

end

namespace Trial

open Session.Trial (importing key)

end Trial

open Session.Trial (importing key)

namespace Trial

/-- The image whose job runs, with a mark that says nothing. -/
def blank : Image :=
  { importing with deletion := .text "" }

end Trial

end Depot

end ImageOperator
