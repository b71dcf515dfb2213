import ImageOperator.Proofs.Session.OneWrite
import ImageOperator.Proofs.Session.Pages
import ImageOperator.Proofs.Store.Mirror

set_option autoImplicit false

/-!
The directory mirrors the store. Whatever is added, written back, marked for deletion and worked on, a store on a
directory that was empty at first has the documents of its objects there and no others, and a store that is opened
anew on the directory has the same objects.
-/

namespace ImageOperator

open Depot (Mirrored)

/-- Whether an image comes straight from a document. -/
def Source.isDocument : Source → Bool
  | .document _ => true
  | .fields _ | .kept _ => false

/-- A pass leaves an image portable: besides the operator's finalizer there are none that were not there before. -/
theorem Image.Kin.portable {before after : Image} (kin : Image.Kin before after) (portable : before.Portable) :
    after.Portable := by
  obtain ⟨fileable, whole⟩ := portable
  have name : after.name = before.name := congrArg ObjectId.name kin.id
  have space : after.space = before.space := congrArg ObjectId.space kin.id
  simp only [isFileable, Bool.and_eq_true, List.all_eq_true] at fileable
  obtain ⟨⟨⟨named, placed⟩, texts⟩, mark⟩ := fileable
  have finalizers : ∀ value ∈ after.finalizers, value.isText = true := by
    intro value held
    cases own : (Value.text finalizer).same value with
    | true =>
      rw [Value.eq_text_of_same own]
      rfl
    | false =>
      have foreign : value ∈ after.foreign := List.mem_filter.mpr ⟨held, by simp [own]⟩
      rw [kin.foreign] at foreign
      exact texts value (List.mem_filter.mp foreign).1
  refine ⟨?_, ?_⟩
  · simp only [isFileable, name, space, kin.deletion, Bool.and_eq_true, List.all_eq_true]
    exact ⟨⟨⟨named, placed⟩, finalizers⟩, mark⟩
  · rw [← whole]
    simp only [isWhole, name, space, kin.spec]

theorem Timestamp.iso_ne_empty (time : Timestamp) : time.iso ≠ "" := by
  simp [iso, isoWith, Date.iso]

theorem Depot.Mirrored.of_same {format : Format} {depot after : Depot} (mirrored : depot.Mirrored format)
    (objects : after.objects = depot.objects) (disk : after.disk = depot.disk) : after.Mirrored format := by
  rw [Mirrored, objects, disk]
  exact mirrored

/-- What a store has, whoever listens to it. -/
def Depot.filed (depot : Depot) : Catalog × Option Disk :=
  (depot.objects, depot.disk)

namespace Session

variable {α : Type} {format : Format} {session : Session} {command : Command}

def filed (session : Session) : Catalog × Option Disk :=
  session.store.filed

instance : Overlooks filed where
  recorded _ _ := rfl
  workspaces _ _ := rfl
  kept _ _ _ := rfl
  set _ _ _ := rfl

theorem preserves_getObject (id : ObjectId) : (inStore (Depot.getObject id)).Preserves store := by
  have same : (Depot.getObject id).Preserves fun depot => depot :=
    (Attempt.preserves_of _ _).bind fun _ => (Attempt.preserves_read _).bind fun _ => Attempt.preserves_pure _ _
  exact fun session => (depot_putDepot_self session _).trans (same session.store)

/-- Listeners may come and go at any store. -/
theorem inDepot_filed {attempt : Attempt Depot α} (objects : attempt.Preserves Depot.objects)
    (disk : attempt.Preserves Depot.disk) (index : Nat) : (inDepot index attempt).Preserves filed := by
  intro session
  refine Prod.ext ?_ (disk (session.depot index))
  by_cases own : index = session.current
  · subst own
    exact (congrArg Depot.objects (depot_putDepot_self session _)).trans (objects session.store)
  · exact objects_putDepot_of_ne session _ own

theorem listen_filed (change listener handle : String) (reaction : Reaction) :
    (listen change listener handle reaction).Preserves filed := by
  unfold listen
  cases Change.ofText? change with
  | none => exact Attempt.preserves_fail _ _
  | some change =>
    refine (Attempt.preserves_read _).bind fun session => ?_
    refine Attempt.Preserves.bind (Attempt.preserves_update fun _ => rfl) fun _ => ?_
    exact (Attempt.preserves_read _).bind fun session => inDepot_filed (fun _ => rfl) (fun _ => rfl) _

theorem unlisten_filed (handle : String) : (unlisten handle).Preserves filed := by
  refine (Attempt.preserves_read _).bind fun session => ?_
  cases session.handles.lookup handle with
  | none => exact Attempt.preserves_fail _ _
  | some index =>
    refine inDepot_filed (fun depot => ?_) (fun depot => ?_) index
    all_goals
      dsimp only [Attempt.update]
      cases depot.audience.remover? handle <;> rfl

/-- Commands that leave the objects and the disk of the store in use alone. -/
def isQuiet : Command → Bool
  | .get _ _ | .list _ _ | .kept _ | .changeKept _ _ | .listen _ _ _ _ | .unlisten _ | .setNow _ | .setRegistry _
  | .cloud _ _ | .files | .pathFor _ | .state => true
  | .add _ _ | .addWritten _ _ | .persist _ _ | .requestDeletion _ | .reconcile _ | .modify _ _ _ | .writeFile _ _
  | .makeFolder _ | .deleteFile _ | .deleteRoot | .load | .reopen | .open _ | .within _ _ _ | .scope _ _ => false

theorem step_quiet {command : Command} (quiet : isQuiet command = true) : (step command).Preserves filed := by
  have done (answer : Answer) : (pure answer : Attempt Session Answer).Preserves filed :=
    Attempt.preserves_pure filed answer
  cases command with
  | get id keep =>
    refine Attempt.Preserves.bind (fun session => ?_) fun stored => ?_
    · exact congrArg Depot.filed (preserves_getObject id session)
    · cases stored with
      | none => exact done _
      | some image => exact (preserves_keep filed keep image none).bind fun _ => done _
  | changeKept name edit => exact step_changeKept filed (fun _ _ => rfl) name edit
  | listen change listener handle reaction => exact (listen_filed change listener handle reaction).bind fun _ => done _
  | unlisten handle => exact (unlisten_filed handle).bind fun _ => done _
  | list | kept | setNow | setRegistry | files | pathFor | cloud | state => exact step_aside filed rfl
  | add | addWritten | persist | requestDeletion | reconcile | modify | writeFile | makeFolder | deleteFile | deleteRoot
  | load | reopen | «open» | within | scope => cases quiet

/-- Commands under which a directory is kept by its store alone: images are added and written back that can be filed
and were read from a document, or have what a document must have; objects are marked for deletion and worked on while
the clouds and the registry do what they like. -/
def keepsDocuments (session : Session) : Command → Bool
  | .addWritten source keep | .persist source keep =>
    (takeSource source keep session).result.toOption.all fun image =>
      image.isFileable && (source.isDocument || image.isWhole)
  | .requestDeletion _ | .reconcile _ | .cloud _ _ | .setRegistry _ | .setNow _ | .get _ _ | .list _ _ | .kept _
  | .changeKept _ _ | .listen _ _ _ _ | .unlisten _ | .files | .pathFor _ | .state => true
  | .add _ _ | .modify _ _ _ | .writeFile _ _ | .makeFolder _ | .deleteFile _ | .deleteRoot | .load | .reopen
  | .open _ | .within _ _ _ | .scope _ _ => false

/-- The directory is the mirror of the store in use. -/
def HasMirror (format : Format) (session : Session) : Prop :=
  session.store.Mirrored format

theorem takeSource_document (value : Value) (keep : Option String) (session : Session) :
    (takeSource (.document value) keep session).result = Image.ofDocument value := by
  unfold takeSource
  dsimp only
  cases Image.ofDocument value with
  | error fault => rfl
  | ok image => cases keep <;> rfl

theorem portable_of_taken {source : Source} {keep : Option String} {image : Image}
    (permitted : (takeSource source keep session).result.toOption.all
      (fun image => image.isFileable && (source.isDocument || image.isWhole)) = true)
    (taken : (takeSource source keep session).result = .ok image) : image.Portable := by
  rw [taken] at permitted
  simp only [Except.toOption, Option.all_some, Bool.and_eq_true, Bool.or_eq_true] at permitted
  refine ⟨permitted.1, ?_⟩
  rcases permitted.2 with document | whole
  · cases source with
    | document value =>
      rw [takeSource_document] at taken
      exact Image.isWhole_of_document taken
    | fields | kept => cases document
  · exact whole

theorem store_inStore (attempt : Attempt Depot α) (session : Session) :
    (inStore attempt session).state.store = (attempt session.store).state :=
  depot_putDepot_self session _

theorem mirror_inStore {attempt : Attempt Depot α} (maintains : attempt.Maintains (Mirrored format)) :
    (inStore attempt).Maintains (HasMirror format) := by
  intro session mirrored
  rw [HasMirror, store_inStore]
  exact maintains session.store mirrored

/-- What leaves the objects and the disk of the store in use alone. -/
theorem mirror_apart {attempt : Attempt Session α} (apart : attempt.Preserves filed) :
    attempt.Maintains (HasMirror format) := by
  intro session mirrored
  obtain ⟨objects, disk⟩ := Prod.mk.inj (apart session)
  exact mirrored.of_same objects disk

/-- What a pass makes of the store is what handing over some image of a stored object's kin makes of it. -/
theorem reconcile_store (id : ObjectId) (session : Session) :
    ∃ handed, (reconcile id session).state.store = (handOver handed session.store).state ∧
      ∀ image, handed = some image → .submitted image ∈ (reconcile id session).notes ∧
        ∃ key stored, session.store.objects.get? key = some stored ∧ Image.Kin stored image := by
  obtain ⟨name, handed, hands, back⟩ := reconcile_hands id session
  refine ⟨handed, hands.store, ?_⟩
  rintro image rfl
  obtain ⟨key, stored, -, found, handsBack⟩ := back image rfl
  refine ⟨?_, key, stored, found, handsBack?_kin handsBack⟩
  have submitted : image ∈ (reconcile id session).notes.filterMap Note.submitted? := by
    rw [hands.submitted]
    exact List.mem_singleton_self image
  obtain ⟨note, noted, told⟩ := List.mem_filterMap.mp submitted
  cases note with
  | submitted other =>
    obtain rfl := Option.some.inj told
    exact noted
  | called | fired | requested | recorded | logged => cases told

theorem mirror_reconcile (id : ObjectId) : (reconcile id).Maintains (HasMirror format) := by
  intro session mirrored
  obtain ⟨handed, store, kin⟩ := reconcile_store id session
  rw [HasMirror, store]
  cases handed with
  | none => exact mirrored
  | some image =>
    obtain ⟨-, key, stored, held, kin⟩ := kin image rfl
    obtain ⟨tree, disk, mirrors⟩ := mirrored
    exact Depot.mirrored_persist (kin.portable (mirrors.own key stored held).2) _ ⟨tree, disk, mirrors⟩

/-- An image that is taken for the store is handed to it as it is then. -/
theorem mirror_taken {source : Source} {keep : Option String} {put : Image → Attempt Depot Unit}
    (maintains : ∀ image, (takeSource source keep session).result = .ok image →
      (put image).Maintains (Mirrored format))
    (mirrored : session.HasMirror format) :
    ((do inStore (put (← takeSource source keep)); return .done : Attempt Session Answer) session).state.HasMirror
      format := by
  have same := preserves_takeSource store source keep session
  rcases taken : takeSource source keep session with ⟨fault | image, after, notes⟩
  all_goals rw [taken] at same
  · rw [Attempt.bind_of_error taken, HasMirror, same]
    exact mirrored
  · rw [Attempt.bind_of_ok taken]
    have kept : after.HasMirror format := by
      rw [HasMirror, same]
      exact mirrored
    exact (mirror_inStore (maintains image (congrArg Outcome.result taken))).bind
      (fun _ => Attempt.maintains_pure _ _) after kept

/-- The step lemma: a permitted command leaves the directory the mirror of the store. -/
theorem step_mirror (permitted : keepsDocuments session command = true) (mirrored : session.HasMirror format) :
    (step command session).state.HasMirror format := by
  cases command with
  | addWritten source keep =>
    exact mirror_taken (fun image taken => Depot.mirrored_addWritten (portable_of_taken permitted taken)) mirrored
  | persist source keep =>
    exact mirror_taken (fun image taken => Depot.mirrored_persist (portable_of_taken permitted taken)) mirrored
  | requestDeletion id =>
    have marks : (Depot.requestDeletion id session.now.iso).Maintains (Mirrored format) :=
      Depot.mirrored_requestDeletion id session.now.iso_ne_empty
    exact (mirror_inStore marks).bind (fun _ => Attempt.maintains_pure _ _) session mirrored
  | reconcile id => exact ((mirror_reconcile id).bind fun _ => Attempt.maintains_pure _ _) session mirrored
  | get | list | kept | changeKept | listen | unlisten | setNow | setRegistry | files | pathFor | cloud | state =>
    exact mirror_apart (step_quiet rfl) session mirrored
  | add | modify | writeFile | makeFolder | deleteFile | deleteRoot | load | reopen | «open» | within | scope =>
    cases permitted

theorem start_mirror {settings : Settings} {disk : Disk} (kept : settings.disk = some disk)
    (vacant : ∀ folder rest, disk.tree.node? (Path.rootName :: folder :: rest) = none) :
    (start settings).HasMirror disk.format := by
  refine ⟨disk.tree, kept, fun key image stored => ?_, fun space name => vacant space _⟩
  cases stored

theorem store_reopen (session : Session) : (step .reopen session).state.store = Depot.empty session.disk := by
  have opened : (session.depots ++ [Depot.empty session.disk])[session.depots.length]? =
      some (Depot.empty session.disk) := List.getElem?_concat_length
  exact congrArg (fun depot? => { depot?.getD (Depot.empty none) with disk := session.disk }) opened

theorem step_load (session : Session) : (step .load session).state.store = (Depot.load session.store).state ∧
    ((step .load session).result = .ok .done ↔ (Depot.load session.store).result = .ok ()) := by
  have store := store_inStore Depot.load session
  have result : (inStore Depot.load session).result = (Depot.load session.store).result := rfl
  have step : step .load session = (inStore Depot.load >>= fun _ => pure .done) session := rfl
  rw [← store, ← result, step]
  rcases ran : inStore Depot.load session with ⟨fault | _, after, notes⟩
  · rw [Attempt.bind_of_error ran]
    exact ⟨rfl, nofun, nofun⟩
  · rw [Attempt.bind_of_ok ran]
    exact ⟨rfl, fun _ => rfl, fun _ => rfl⟩

/-- The directory stands for the store: there are the documents of the stored objects and no others, and a store that
is opened anew and loads them has the same objects. -/
structure StandsFor (tree : Tree) (session : Session) : Prop where
  documents : ∀ path, path ∈ Depot.documentPaths tree ↔
    ∃ id, (session.stored? id).isSome = true ∧ Depot.documentPath id = .ok path
  loads : (step .load (step .reopen session).state).result = .ok .done
  reloaded : ∀ id, (step .load (step .reopen session).state).state.stored? id = session.stored? id

theorem standsFor_of_mirrors {tree : Tree} (kept : session.disk = some ⟨tree, format⟩)
    (mirrors : Depot.Mirrors format session.store.objects tree)
    (restores : ∀ id image, session.stored? id = some image → image.document.isSimple = true →
      format.Restores image.document) : StandsFor tree session := by
  have own {key : ObjectKey} {image : Image} (stored : session.store.objects.get? key = some image) :
      session.stored? image.id = some image := by
    rw [stored?, (mirrors.own key image stored).1]
    exact stored
  obtain ⟨loaded, done, same⟩ := mirrors.load fun key image stored =>
    restores _ image (own stored) (Image.isSimple_document (mirrors.own key image stored).2.fileable)
  rw [← kept, ← store_reopen] at done
  obtain ⟨store, result⟩ := step_load (step .reopen session).state
  have loads : (Depot.load (step .reopen session).state.store).state = loaded := congrArg Outcome.state done
  refine ⟨fun path => ?_, result.mpr (congrArg Outcome.result done), fun id => ?_⟩
  · rw [mirrors.mem_documentPaths]
    constructor
    · rintro ⟨key, image, stored, found⟩
      exact ⟨image.id, Option.isSome_of_eq_some (own stored), found⟩
    · rintro ⟨id, there, found⟩
      obtain ⟨image, stored⟩ := Option.isSome_iff_exists.mp there
      obtain ⟨key, known, held⟩ := Option.bind_eq_some_iff.mp stored
      obtain ⟨ownKey, portable⟩ := mirrors.own key image held
      obtain ⟨space, name, lies⟩ := Depot.lies_of_portable portable
      obtain rfl := Option.some.inj (ownKey.symm.trans lies.known)
      rw [Depot.eq_of_key known, ← lies.id_eq] at found
      exact ⟨_, image, held, found⟩
  · change id.key?.bind (step .load (step .reopen session).state).state.store.objects.get? = _
    rw [store, loads]
    exact congrArg id.key?.bind (funext same)

/-- A run of a store on an empty directory, with whatever fails in it: the directory stands for the store at its end,
where the format gives back the documents that it is given. -/
theorem documents_mirror_store {settings : Settings} {disk : Disk} {history : List (Session × Command)}
    (kept : settings.disk = some disk)
    (vacant : ∀ folder rest, disk.tree.node? (Path.rootName :: folder :: rest) = none)
    (ran : Run keepsDocuments (start settings) history session)
    (restores : ∀ id image, session.stored? id = some image → image.document.isSimple = true →
      disk.format.Restores image.document) :
    ∃ tree, session.disk = some { disk with tree } ∧ StandsFor tree session := by
  obtain ⟨tree, there, mirrors⟩ : session.HasMirror disk.format :=
    ran.holds (start_mirror kept vacant) fun _ _ permitted mirrored => step_mirror permitted mirrored
  exact ⟨tree, there, standsFor_of_mirrors there mirrors restores⟩

namespace Trial

/-- A pass that fails, and one of the two objects deleted, so that one with a job is left. -/
def tended : List Command :=
  strained ++ [.reconcile (id "m"), .requestDeletion (id "n")]

theorem objects_tended : ((start filing).after tended).store.objects = [(key "m", importing)] := rfl

end Trial

theorem documents_mirror_tended : permits keepsDocuments (start Trial.filing) Trial.tended = true ∧
    ((start Trial.filing).after Trial.tended).stored? (Trial.id "m") = some Trial.importing ∧
    ∃ tree, ((start Trial.filing).after Trial.tended).disk = some ⟨tree, Yaml.format⟩ ∧
      StandsFor tree ((start Trial.filing).after Trial.tended) := by
  have permitted : permits keepsDocuments (start Trial.filing) Trial.tended = true := rfl
  refine ⟨permitted, rfl, ?_⟩
  refine documents_mirror_store (rfl : Trial.filing.disk = some ⟨⟨[]⟩, Yaml.format⟩) (fun _ _ => rfl)
    (Run.after .rest permitted) fun id image stored simple => ?_
  obtain ⟨key, known, held⟩ := Option.bind_eq_some_iff.mp stored
  obtain rfl : Trial.importing = image := by
    change Catalog.get? ((start Trial.filing).after Trial.tended).store.objects key = some image at held
    rw [Trial.objects_tended] at held
    exact (Catalog.eq_of_get?_single held).2.symm
  exact Trial.restores_importing

end Session

end ImageOperator
