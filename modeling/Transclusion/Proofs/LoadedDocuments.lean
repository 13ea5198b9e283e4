import Transclusion.Proofs.WrittenDocuments

/-!
What is loaded from a file is a document in order: no field and no language of a field is there
twice, whatever the file holds, and the document has a language of its own.
-/

namespace Transclusion

namespace Value

end Value

namespace Document

end Document

end Transclusion
