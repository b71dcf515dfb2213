import ImageOperator.Proofs.Image.Reading

set_option autoImplicit false

/-!
Finalizers under calls that put one on and take one away. The list comes from a document as it is, so a finalizer may
be listed more than once at first. A call touches one occurrence, and never puts a second one on: a finalizer that the
document lists several times goes one occurrence at a time, and from then on the finalizers are an ordered set.
-/

namespace ImageOperator.Image

/-- A call that changes the finalizers of an image. -/
inductive FinalizerCall
  | add (name : String)
  | remove (name : String)
deriving DecidableEq

def call (image : Image) : FinalizerCall → Image
  | .add name => image.addFinalizer (.text name)
  | .remove name => image.removeFinalizer (.text name)

/-- The image after calls, one after the other. -/
def afterCalls (image : Image) (calls : List FinalizerCall) : Image :=
  calls.foldl call image

/-- How often a finalizer is listed. -/
def listings (image : Image) (name : String) : Nat :=
  image.finalizers.countP ((Value.text name).same ·)

/-- The other finalizers, in their order. -/
def besides (image : Image) (name : String) : List Value :=
  image.finalizers.filter fun value => !(Value.text name).same value

theorem hasFinalizer_iff {image : Image} {name : String} :
    image.hasFinalizer (.text name) = true ↔ 0 < image.listings name := by
  rw [hasFinalizer, List.any_eq_true, listings, List.countP_pos_iff]

theorem hasFinalizer_eq_false_iff {image : Image} {name : String} :
    image.hasFinalizer (.text name) = false ↔ image.listings name = 0 := by
  rw [← Bool.not_eq_true, hasFinalizer_iff]
  omega

theorem same_text (name : String) : (Value.text name).same (.text name) = true :=
  same_of_key rfl

/-- A text is the same as no other. -/
theorem same_text_of_ne {name other : String} (apart : other ≠ name) {value : Value}
    (same : (Value.text name).same value = true) : (Value.text other).same value = false := by
  rw [← Bool.not_eq_true]
  intro own
  have texts := (Value.eq_text_of_same own).symm.trans (Value.eq_text_of_same same)
  exact apart (Value.text.inj texts)

/-! ### What a call does to its own finalizer -/

theorem listings_addFinalizer (image : Image) (name : String) :
    (image.addFinalizer (.text name)).listings name = max (image.listings name) 1 := by
  unfold addFinalizer
  split
  next present =>
    have listed := hasFinalizer_iff.mp present
    omega
  next missing =>
    have unlisted := hasFinalizer_eq_false_iff.mp (Bool.eq_false_iff.mpr missing)
    have more : listings { image with finalizers := image.finalizers ++ [.text name] } name =
        image.listings name + 1 := by
      simp [listings, same_text]
    omega

theorem listings_removeFinalizer (image : Image) (name : String) :
    (image.removeFinalizer (.text name)).listings name = image.listings name - 1 :=
  countP_eraseP _ image.finalizers

theorem addFinalizer_of_listed {image : Image} {name : String} (listed : 0 < image.listings name) :
    image.addFinalizer (.text name) = image :=
  if_pos (hasFinalizer_iff.mpr listed)

theorem removeFinalizer_eq_self_iff {image : Image} {name : String} :
    image.removeFinalizer (.text name) = image ↔ image.listings name = 0 := by
  constructor
  · intro same
    have fewer := listings_removeFinalizer image name
    rw [same] at fewer
    omega
  · intro unlisted
    have kept : image.finalizers.eraseP ((Value.text name).same ·) = image.finalizers :=
      List.eraseP_of_forall_not (by simpa [listings] using unlisted)
    rw [removeFinalizer, kept]

/-! ### What a call does to the others -/

theorem besides_addFinalizer (image : Image) (name : String) :
    (image.addFinalizer (.text name)).besides name = image.besides name := by
  unfold addFinalizer
  split
  · rfl
  · simp [besides, same_text]

theorem besides_removeFinalizer (image : Image) (name : String) :
    (image.removeFinalizer (.text name)).besides name = image.besides name :=
  filter_eraseP _ image.finalizers

/-- The listings of a finalizer are among the others of any other. -/
theorem listings_eq_countP_besides {name other : String} (apart : other ≠ name) (image : Image) :
    image.listings other = (image.besides name).countP ((Value.text other).same ·) := by
  rw [besides, List.countP_filter]
  apply List.countP_congr
  intro value listed
  have mine := @same_text_of_ne name other apart value
  cases own : (Value.text name).same value <;> simp_all

theorem listings_of_besides {name other : String} (apart : other ≠ name) {before after : Image}
    (same : after.besides name = before.besides name) : after.listings other = before.listings other := by
  rw [listings_eq_countP_besides apart, listings_eq_countP_besides apart, same]

/-! ### Sequences of calls -/

/-- Of several listings, as many are left as were not removed. Once no more than one is left, there is never more than
one again. -/
theorem listings_afterCalls (image : Image) (calls : List FinalizerCall) (name : String) :
    max ((image.afterCalls calls).listings name) 1 =
      max (image.listings name - calls.count (.remove name)) 1 := by
  induction calls generalizing image with
  | nil => rfl
  | cons first rest ih =>
    have later := ih (image.call first)
    change max (((image.call first).afterCalls rest).listings name) 1 = _
    rw [later]
    cases first with
    | add other =>
      have counted : (FinalizerCall.add other :: rest).count (.remove name) = rest.count (.remove name) :=
        List.count_cons_of_ne (by simp)
      by_cases own : name = other
      · subst own
        have added : (image.call (.add name)).listings name = max (image.listings name) 1 :=
          listings_addFinalizer image name
        omega
      · have kept : (image.call (.add other)).listings name = image.listings name :=
          listings_of_besides own (besides_addFinalizer image other)
        omega
    | remove other =>
      by_cases own : name = other
      · subst own
        have counted : (FinalizerCall.remove name :: rest).count (.remove name) = rest.count (.remove name) + 1 :=
          List.count_cons_self
        have removed : (image.call (.remove name)).listings name = image.listings name - 1 :=
          listings_removeFinalizer image name
        omega
      · have counted : (FinalizerCall.remove other :: rest).count (.remove name) = rest.count (.remove name) :=
          List.count_cons_of_ne fun same => own (FinalizerCall.remove.inj same).symm
        have kept : (image.call (.remove other)).listings name = image.listings name :=
          listings_of_besides own (besides_removeFinalizer image other)
        omega

/-- Finalizers are an ordered set, but for one that is listed more than once at first. After any calls, a finalizer that
is put on is there, and a second time changes nothing; to put it on or to take it away leaves the others as they are, in
their order. Taken away, it is still there exactly if the image listed it more often at first than it has been taken away
so far, and then only does taking it away once more change anything. -/
theorem finalizer_stays_iff_doubled (image : Image) (calls : List FinalizerCall) (name : String) :
    ((image.afterCalls calls).addFinalizer (.text name)).hasFinalizer (.text name) = true ∧
      ((image.afterCalls calls).addFinalizer (.text name)).addFinalizer (.text name) =
        (image.afterCalls calls).addFinalizer (.text name) ∧
      ((image.afterCalls calls).addFinalizer (.text name)).besides name = (image.afterCalls calls).besides name ∧
      ((image.afterCalls calls).removeFinalizer (.text name)).besides name = (image.afterCalls calls).besides name ∧
      (((image.afterCalls calls).removeFinalizer (.text name)).hasFinalizer (.text name) = true ↔
        calls.count (.remove name) + 1 < image.listings name) ∧
      (((image.afterCalls calls).removeFinalizer (.text name)).removeFinalizer (.text name) =
          (image.afterCalls calls).removeFinalizer (.text name) ↔
        image.listings name ≤ calls.count (.remove name) + 1) := by
  have left := listings_afterCalls image calls name
  have added := listings_addFinalizer (image.afterCalls calls) name
  have removed := listings_removeFinalizer (image.afterCalls calls) name
  refine ⟨?_, ?_, besides_addFinalizer _ _, besides_removeFinalizer _ _, ?_, ?_⟩
  · rw [hasFinalizer_iff]
    omega
  · apply addFinalizer_of_listed
    omega
  · rw [hasFinalizer_iff]
    omega
  · rw [removeFinalizer_eq_self_iff]
    omega

/-- A document that lists a finalizer twice. -/
def doubled : Value :=
  .mapping [
    (.text "apiVersion", .text version),
    (.text "kind", .text kind),
    (.text "metadata", .mapping [
      (.text "name", .text "m"),
      (.text "namespace", .text "s"),
      (.text "finalizers", .sequence [.text "held", .text "kept", .text "held"])]),
    (.text "spec", .mapping [
      (.text "serviceInstanceID", .text "instance-1"),
      (.text "bucket", .text "b"),
      (.text "object", .text "o"),
      (.text "region", .text "us-south")])]

/-- A finalizer that is listed twice is there after it has been taken away, and goes when it is taken away again. -/
theorem doubled_finalizer_stays :
    ∃ image, ofDocument doubled = .ok image ∧ image.finalizers.all Value.isText = true ∧
      (image.removeFinalizer (.text "held")).hasFinalizer (.text "held") = true ∧
      ((image.removeFinalizer (.text "held")).removeFinalizer (.text "held")).hasFinalizer (.text "held") = false :=
  ⟨_, rfl, by decide, by decide, by decide⟩

end ImageOperator.Image
