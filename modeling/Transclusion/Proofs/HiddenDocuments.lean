import Transclusion.Proofs.PairedRuns

/-!
Documents that are not viewable. A search passes them over after the query has found them,
so a render and a lookup come to the same result, ask the same queries and note the same
records whatever such documents an archive keeps in memory.
-/

namespace Transclusion

open Act

/-- The first session keeps `documents` in memory; the second differs in keeping `others`. -/
def Session.Twins (documents others : List Document) (session other : Session Archive) : Prop :=
  session.store.Holds documents ∧ other = session.kept others

section Twins

variable {documents others : List Document}

theorem Session.twins_steady {override : Option Override} :
    Session.Steady override (Session.Twins documents others) where
  templates := by
    rintro session _ ⟨_, rfl⟩ _ _
    rfl
  fields := by
    rintro session _ ⟨_, rfl⟩ capability
    rfl
  noted := by
    rintro session _ ⟨holds, rfl⟩ record
    exact ⟨⟨holds.shelf, holds.answers⟩, rfl⟩

theorem Session.twins_guarded : Session.Guarded (Session.Twins documents others) where
  same := by
    rintro session _ ⟨_, rfl⟩
    rfl
  set := by
    rintro session _ ⟨holds, rfl⟩ busy
    exact ⟨⟨holds.shelf, holds.answers⟩, rfl⟩

theorem Lookup.inDocuments_filter (lookup : Lookup) (grammar : Grammar) (name : Text)
    (fields : List String) (language : String) (found : Document → Bool)
    (same : documents.filter (·.viewable) = others.filter (·.viewable)) :
    lookup.inDocuments grammar name fields language (documents.filter found) =
      lookup.inDocuments grammar name fields language (others.filter found) := by
  -- the order of the two filters makes no difference
  have swap : ∀ documents : List Document, (documents.filter found).filter (·.viewable) =
      (documents.filter (·.viewable)).filter found := by
    intro documents
    simp only [List.filter_filter, Bool.and_comm]
  rw [inDocuments, inDocuments, swap, swap, same]

variable (engine : Engine) (same : documents.filter (·.viewable) = others.filter (·.viewable))

namespace Engine

include same

theorem agree_find (lookup : Lookup) (name : Text) (fields : List String) (language : String) :
    Agree (Session.Twins documents others) (engine.find lookup name fields language).run
      (engine.find lookup name fields language).run := by
  rintro session _ ⟨holds, rfl⟩
  let query : Query := ⟨fields, engine.grammar.startTag name lookup.multi⟩
  have found : ∀ {session : Session Archive} {documents : List Document},
      session.store.Holds documents →
        (engine.find lookup name fields language).runFrom session =
          (.ok (lookup.inDocuments engine.grammar name fields language
            (documents.filter fun document => document.contains fields query.contains)),
            session.asked query) :=
    fun holds => ArchiveWork.runFrom_bind (Archive.search_run holds query) _
  have here := found holds
  have there := found (holds.kept others)
  rw [← Lookup.inDocuments_filter lookup engine.grammar name fields language _ same] at there
  simp only [ArchiveWork.runFrom] at here there
  rw [here, there]
  exact ⟨rfl, holds.asked query, rfl⟩

theorem agree_block_hidden (lookup : Lookup) (code : Option String) (name : Text) :
    Agree (Session.Twins documents others) (engine.block lookup code name).run
      (engine.block lookup code name).run :=
  agree_block Session.twins_steady (engine.agree_find same) lookup code name

theorem agree_render_hidden (code : Option String) (text : Text) :
    Agree (Session.Twins documents others) (engine.render code text) (engine.render code text) :=
  agree_render Session.twins_steady (engine.agree_find same) Session.twins_guarded code text

end Engine

end Twins

namespace Engine

/-- Two archives that keep the same viewable documents in the same order cannot be told
apart: a render and a lookup of a block give the same result on both, and leave the same
queries and records behind. -/
theorem hidden_documents_unseen (engine : Engine) (documents others : List Document)
    (same : documents.filter (·.viewable) = others.filter (·.viewable))
    (enabledFields : List String) (offered : String) (files : FileTree) (queries : List Query)
    (busy : Bool) (records : List Record) (code : Option String) :
    let session (documents : List Document) : Session Archive :=
      ⟨{ shelf := .memory documents, enabledFields, capability := offered, files, queries },
        busy, records⟩
    (∀ text,
      let seen := (engine.render code text).run (session documents)
      (engine.render code text).run (session others) = (seen.1, seen.2.kept others)) ∧
    ∀ lookup name,
      let seen := (engine.block lookup code name).runFrom (session documents)
      (engine.block lookup code name).runFrom (session others) = (seen.1, seen.2.kept others) := by
  intro session
  have twins : Session.Twins documents others (session documents) (session others) :=
    ⟨⟨rfl, fun _ => rfl⟩, rfl⟩
  constructor
  · intro text seen
    obtain ⟨result, _, after⟩ := engine.agree_render_hidden same code text _ _ twins
    exact Prod.ext result.symm after
  · intro lookup name seen
    obtain ⟨result, _, after⟩ := engine.agree_block_hidden same lookup code name _ _ twins
    exact Prod.ext result.symm after

/-- Neither a hidden document before the one that is shown nor one that is not even published
tells on a render of the block that they define too. -/
theorem hidden_documents_unseen_sample :
    let hidden (id : String) (published : Bool) : Document :=
      { id, fields := [("body", .plain "start_a hidden stop_a".toList)], published,
        viewable := false }
    let shown : Document := { id := "B", fields := [("body", .plain "start_a x stop_a".toList)] }
    let documents := [hidden "A" true, shown]
    let others := [shown, hidden "C" false]
    let session (documents : List Document) : Session Archive :=
      ⟨{ shelf := .memory documents }, false, []⟩
    documents.filter (·.viewable) = others.filter (·.viewable) ∧
      ((({} : Engine).render none "show_a".toList).run (session others)).1 =
        ((({} : Engine).render none "show_a".toList).run (session documents)).1 := by
  intro hidden shown documents others session
  have same : documents.filter (·.viewable) = others.filter (·.viewable) := rfl
  obtain ⟨renders, _⟩ := hidden_documents_unseen {} documents others same ["body"]
    standardCapability {} [] false [] none
  have seen := renders "show_a".toList
  exact ⟨same, by rw [seen]⟩

end Engine

end Transclusion
