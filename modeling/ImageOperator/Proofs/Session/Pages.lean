import ImageOperator.Proofs.Image.Document
import ImageOperator.Proofs.Session.Trial

set_option autoImplicit false

/-!
Images of the trial session, and what their documents look like in a file.
-/

namespace ImageOperator.Session.Trial

/-- An image whose job runs. -/
def importing : Image where
  name := .text "m"
  space := .text "s"
  spec := ⟨"w", "b", "o", "r", "tier1"⟩
  status := ⟨false, "", .importing, "job-1"⟩
  finalizers := [.text Image.finalizer]
  deletion := .null

/-- The lines of its document. -/
def lines : List String := [
  "---\n", "apiVersion: infrastructure.cluster.x-k8s.io/v1beta1\n", "kind: IBMPowerVSImage\n", "metadata:\n",
  "  name: m\n", "  namespace: s\n", "  finalizers:\n", "  - ibmpowervsimage.infrastructure.cluster.x-k8s.io\n",
  "spec:\n", "  serviceInstanceID: w\n", "  bucket: b\n", "  object: o\n", "  region: r\n", "  storageType: tier1\n",
  "status:\n", "  ready: false\n", "  imageID: ''\n", "  imageState: importing\n", "  jobID: job-1\n"]

def page : String :=
  String.ofList (lines.flatMap String.toList)

theorem write_importing : Yaml.format.write importing.document = page := by
  have parts : importing.document = .mapping [(.text "apiVersion", .text Image.version),
      (.text "kind", .text Image.kind),
      (.text "metadata", .mapping [(.text "name", .text "m"), (.text "namespace", .text "s"),
        (.text "finalizers", .sequence [.text Image.finalizer])]),
      (.text "spec", importing.spec.fields), (.text "status", importing.status.fields)] := rfl
  rw [parts]
  -- the layout recurses on a measure, so it is opened by its equations; the kernel evaluates the scalars
  simp only [Yaml.format, Yaml.write, Image.Spec.fields, Image.Status.fields, Yaml.Node.ofValue, Yaml.Node.ofValues,
    Yaml.Node.ofEntries, Yaml.Printer.document, Yaml.Printer.node, Yaml.Printer.nodeItems, Yaml.Printer.nodeEntries,
    Yaml.Printer.nodeKey]
  apply congrArg String.ofList
  decide +kernel

theorem restores_importing : Yaml.format.Restores importing.document := by
  refine Format.restores_of_agrees write_importing ?_
  -- the characters are spelled out line by line, since the kernel takes long to decode a long text
  simp only [Yaml.format, Yaml.read, Yaml.Node.ofText, Yaml.Token.ofText, page, String.toList_ofList, lines,
    List.flatMap_cons, List.flatMap_nil, String.reduceToList, List.cons_append, List.nil_append]
  decide +kernel

/-- An image of a name, as it is before anything was done about it. -/
def fresh (name : String) : Image where
  name := .text name
  space := .text "s"
  spec := ⟨"w", "b", "o", "r", "tier1"⟩
  status := Image.Status.fresh
  finalizers := []
  deletion := .null

/-- The lines of the document of such an image. -/
def freshLines (name : String) : List String := [
  "---\n", "apiVersion: infrastructure.cluster.x-k8s.io/v1beta1\n", "kind: IBMPowerVSImage\n", "metadata:\n",
  "  name: ", name, "\n", "  namespace: s\n",
  "spec:\n", "  serviceInstanceID: w\n", "  bucket: b\n", "  object: o\n", "  region: r\n", "  storageType: tier1\n",
  "status:\n", "  ready: false\n", "  imageID: ''\n", "  imageState: unknown\n", "  jobID: ''\n"]

def freshPage (name : String) : String :=
  String.ofList ((freshLines name).flatMap String.toList)

/-- A name like any other, and one that leads elsewhere. -/
def names : List String := ["m", "../s/m"]

theorem write_fresh : ∀ name ∈ names, Yaml.format.write (fresh name).document = freshPage name := by
  have parts (name : String) : (fresh name).document = .mapping [(.text "apiVersion", .text Image.version),
      (.text "kind", .text Image.kind),
      (.text "metadata", .mapping [(.text "name", .text name), (.text "namespace", .text "s")]),
      (.text "spec", (fresh name).spec.fields), (.text "status", (fresh name).status.fields)] := rfl
  intro name held
  rw [parts]
  simp only [names, List.mem_cons, List.not_mem_nil, or_false] at held
  rcases held with rfl | rfl
  all_goals
    simp only [Yaml.format, Yaml.write, Image.Spec.fields, Image.Status.fields, Yaml.Node.ofValue,
      Yaml.Node.ofEntries, Yaml.Printer.document, Yaml.Printer.node, Yaml.Printer.nodeEntries, Yaml.Printer.nodeKey]
    apply congrArg String.ofList
    decide +kernel

theorem restores_fresh : ∀ name ∈ names, Yaml.format.Restores (fresh name).document := by
  intro name held
  refine Format.restores_of_agrees (write_fresh name held) ?_
  simp only [names, List.mem_cons, List.not_mem_nil, or_false] at held
  rcases held with rfl | rfl
  all_goals
    simp only [Yaml.format, Yaml.read, Yaml.Node.ofText, Yaml.Token.ofText, freshPage, String.toList_ofList, freshLines,
      List.flatMap_cons, List.flatMap_nil, String.reduceToList, List.cons_append, List.nil_append]
    decide +kernel

theorem reads_importing : Image.ofDocument importing.document = .ok importing :=
  Image.ofDocument_document (by decide) (.inr rfl)

theorem reads_fresh : ∀ name ∈ names, Image.ofDocument (fresh name).document = .ok (fresh name) := by
  intro name held
  refine Image.ofDocument_document ?_ (.inr rfl)
  revert name
  decide

end ImageOperator.Session.Trial
