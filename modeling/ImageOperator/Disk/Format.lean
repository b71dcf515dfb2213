import ImageOperator.Disk.Tree
/-!
Formats of documents: how values are written into files and read from them. A text that is no document at all is
malformed; a document may also hold a scalar that its tag does not allow.
-/

set_option autoImplicit false

namespace ImageOperator

inductive ReadFault
  | malformed
  | scalar (fault : Fault)
deriving Inhabited

structure Format where
  write : Value → String
  read : String → Except ReadFault Value

/-- A file tree with the format of the documents in it. -/
structure Disk where
  tree : Tree
  format : Format

end ImageOperator
