import Transclusion.Proofs.FolderWrites
import Transclusion.Proofs.SettledDocuments

/-!
Saving a document in a folder and loading it again. The document that is loaded, and that is found
among the others, is the settled one: it is the document that was saved exactly when every text and
name with a next-line character is written between double quotes.
-/

namespace Transclusion

variable {document : Document}

theorem Document.Lasting.survives (lasting : document.Lasting) (sound : document.Sound)
    (fits : document.Fits) : Shelf.Survives document := by
  have read := fits.read_write
  rwa [(Document.settled_eq_iff sound).mpr lasting] at read

namespace Archive

variable {archive : Archive} {root : Path} {ready : FileTree}

end Archive

end Transclusion
