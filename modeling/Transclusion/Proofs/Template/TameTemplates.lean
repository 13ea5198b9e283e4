import Transclusion.Proofs.Template.TameEvaluation
import Transclusion.Template.Folder

/-!
Templates that fail only for want of a value. Every expression in a tame template has a kind, its
loops go over what can be iterated over and keep the names that every template has, and what it
inserts is a template of a known name, which is tame or is not there. Whatever the block is called
and holds, and however texts are formatted, such a template is rendered or fails by a fault of its
own.
-/

namespace Transclusion.Template

/-- Whether what an expression stands for can be iterated over, if it has a value. -/
def Expression.isIterable (expression : Expression) : Bool :=
  expression.kind?.any (· != .item)

def conditionIsTame : Option Expression → Bool
  | none => true
  | some condition => condition.kind?.isSome

mutual

/-- Whether a part is tame; `known` tells of the templates that may be inserted. -/
def Part.isTame (known : Text → Bool) : Part → Bool
  | .text _ => true
  | .print expression => expression.kind?.isSome
  | .choice condition whenTrue whenFalse =>
      condition.kind?.isSome && partsAreTame known whenTrue && partsAreTame known whenFalse
  | .loop (.name name) items condition body whenEmpty =>
      !keptNames.contains name && items.isIterable && conditionIsTame condition &&
        partsAreTame known body && partsAreTame known whenEmpty
  | .loop (.several _) _ _ _ _ => false
  | .insertion (.constant (.text template)) _ _ => known template.toList
  | .insertion _ _ _ => false

def partsAreTame (known : Text → Bool) : List Part → Bool
  | [] => true
  | part :: rest => part.isTame known && partsAreTame known rest

end

section Rendering

variable {scope : Scope} {name : String} {condition : Option Expression}

theorem gives_chosenItems (tame : scope.Tame) (free : name ∉ keptNames)
    (conditionTame : conditionIsTame condition = true) {items : List Item}
    (plain : ∀ item ∈ items, item.isPlain = true) :
    Work.Gives (fun walked => ∀ entry ∈ walked, ∃ item : Item, item.isPlain = true ∧
      entry.2 = [(name, item)]) (chosenItems scope (.name name) condition items) := by
  induction items with
  | nil => exact fun _ member => absurd member List.not_mem_nil
  | cons item items ih =>
    have here := plain item List.mem_cons_self
    have later := ih fun other member => plain other (List.mem_cons_of_mem _ member)
    have bindings : Meets Own (fun names => names = [(name, item)]) ((Target.name name).bindings item) :=
      rfl
    rw [chosenItems]
    refine (Work.Gives.lift bindings).bind ?_
    rintro _ rfl
    have rest : ∀ holds : Bool, Work.Gives (fun walked => ∀ entry ∈ walked, ∃ item : Item,
        item.isPlain = true ∧ entry.2 = [(name, item)]) (do
          let others ← chosenItems scope (.name name) condition items
          return if holds then (item, [(name, item)]) :: others else others) := by
      intro holds
      refine later.bind fun others inside entry member => ?_
      split at member
      · cases member with
        | head => exact ⟨item, here, rfl⟩
        | tail _ among => exact inside entry among
      · exact inside entry member
    dsimp only
    split
    · exact rest true
    · next condition =>
      obtain ⟨kind, known⟩ := Option.isSome_iff_exists.mp conditionTame
      refine (gives_evaluate (tame.cons free here) condition kind known).bind fun truth _ => ?_
      exact (Work.Gives.lift (Item.meets_isTrue truth)).bind fun holds _ => rest holds

/-- How the templates that may be inserted are rendered. -/
abbrev Shelf.Sound (shelf : Shelf) (known : Text → Bool) : Prop :=
  ∀ template, known template = true → Meets Own (fun render : Scope → Work Text =>
    ∀ scope : Scope, scope.Tame → Work.Gives (fun _ => True) (render scope)) (shelf template)

mutual

theorem gives_renderPart {shelf : Shelf} {known : Text → Bool} (sound : shelf.Sound known) :
    ∀ (part : Part) (scope : Scope), scope.Tame → part.isTame known = true →
      Work.Gives (fun _ => True) (renderPart shelf scope part)
  | .text _, _, _, _ => trivial
  | .print expression, scope, tame, partTame => by
    obtain ⟨kind, known⟩ := Option.isSome_iff_exists.mp partTame
    rw [renderPart]
    refine (gives_evaluate tame expression kind known).bind fun item fits => ?_
    exact .lift (Item.meets_printed fits.plain)
  | .choice condition whenTrue whenFalse, scope, tame, partTame => by
    simp only [Part.isTame, Bool.and_eq_true] at partTame
    obtain ⟨⟨conditionTame, trueTame⟩, falseTame⟩ := partTame
    obtain ⟨kind, known⟩ := Option.isSome_iff_exists.mp conditionTame
    rw [renderPart]
    refine (gives_evaluate tame condition kind known).bind fun item _ => ?_
    refine (Work.Gives.lift (Item.meets_isTrue item)).bind fun truth _ => ?_
    split
    · exact gives_renderParts sound whenTrue scope tame trueTame
    · exact gives_renderParts sound whenFalse scope tame falseTame
  | .loop (.name name) items condition body whenEmpty, scope, tame, partTame => by
    simp only [Part.isTame, Bool.and_eq_true, Bool.not_eq_true'] at partTame
    obtain ⟨⟨⟨⟨free, iterable⟩, conditionTame⟩, bodyTame⟩, emptyTame⟩ := partTame
    have free : name ∉ keptNames := by simpa using free
    obtain ⟨kind, known, iterates⟩ := (Option.any_eq_true _ _).mp iterable
    rw [renderPart]
    refine (gives_evaluate tame items kind known).bind fun found fits => ?_
    refine (Work.Gives.lift (Item.meets_elements fits.plain (fits.iterable (by simpa using iterates)))).bind
      fun elements plain => ?_
    refine (gives_chosenItems tame free conditionTame plain).bind fun walked named => ?_
    split
    · exact gives_renderParts sound whenEmpty scope tame emptyTame
    · refine (@Work.Gives.mapM _ _ (fun _ => True) _ _ fun entry member => ?_).bind fun _ _ => trivial
      obtain ⟨⟨walkedItem, names⟩, place⟩ := entry
      obtain ⟨item, here, rfl⟩ := named _ (List.fst_mem_of_mem_zipIdx member)
      exact gives_renderParts sound body _ ((tame.cons_round _).cons free here) bodyTame
  | .loop (.several _) _ _ _ _, _, _, partTame => by cases partTame
  | .insertion name mayMiss sharesNames, scope, tame, partTame => by
    have reached : Scope.Tame (if sharesNames then scope else []) := by
      split
      · exact tame
      · exact .nil
    cases name with
    | constant value =>
      cases value with
      | text template =>
        have meets := sound template.toList partTame
        have evaluated : Work.Gives (fun item => item = .scalar (.text template))
            (evaluate scope (.constant (.text template))) := rfl
        have found : templateOf shelf (.scalar (.text template)) = shelf template.toList := rfl
        rw [renderPart]
        refine evaluated.bind ?_
        rintro _ rfl
        rw [found]
        split
        · next render rendered =>
          rw [rendered] at meets
          exact meets _ reached
        · trivial
        · trivial
        · next fault failed _ _ =>
          rw [failed] at meets
          exact meets
      | _ => cases partTame
    | _ => cases partTame

theorem gives_renderParts {shelf : Shelf} {known : Text → Bool} (sound : shelf.Sound known) :
    ∀ (parts : List Part) (scope : Scope), scope.Tame → partsAreTame known parts = true →
      Work.Gives (fun _ => True) (renderParts shelf scope parts)
  | [], _, _, _ => trivial
  | part :: rest, scope, tame, partsTame => by
    rw [partsAreTame, Bool.and_eq_true] at partsTame
    rw [renderParts]
    refine (gives_renderPart sound part scope tame partsTame.1).bind fun text _ => ?_
    exact (gives_renderParts sound rest scope tame partsTame.2).bind fun _ _ => trivial

end

end Rendering

end Transclusion.Template
