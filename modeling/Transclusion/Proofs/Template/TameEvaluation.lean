import Transclusion.Proofs.Template.TameExpressions

/-!
Evaluating tame expressions. Where the names stand for what they may stand for, an expression of a
kind gives an item of the kind or fails by the template's own fault: so does each operation that it
is made of, and by induction on its form so does the whole.
-/

namespace Transclusion.Template

open Template.Item

variable {scope : Scope} {item owner : Item} {kind : Kind} {name : String} {given : Given}

/-- The arguments of a call are what is known of them. -/
inductive Given.Fits : Option Kind → Given → Prop where
  | none : Given.Fits none {}
  | placed {kind : Kind} {item : Item} (fits : item.Fits kind) : Given.Fits (some kind) { placed := [item] }

namespace Operation

theorem fits_texts (parts : List Text) : (texts parts).Fits .elements := by
  refine .of_elements ?_ rfl
  show arePlain (parts.map Item.ofText) = true
  rw [arePlain_iff]
  intro item member
  obtain ⟨text, _, rfl⟩ := List.mem_map.mp member
  rfl

/-- Operations of texts whose kind is known. -/
inductive Known : String → List (Passing × Expression) → Kind → Prop where
  | parts {name : String} (listed : name ∈ ["split", "splitlines"]) : Known name [] .elements
  | text {name : String} (listed : name ∈ ["lower", "lstrip", "rstrip", "strip", "upper"]) :
      Known name [] .text
  | apart {separator : String} (filled : separator.isEmpty = false) :
      Known "split" [(.placed, .constant (.text separator))] .elements

theorem known_of_methodKind? {arguments : List (Passing × Expression)}
    (known : methodKind? name arguments = some kind) : Known name arguments kind := by
  unfold methodKind? at known
  split at known
  · split at known
    · next listed =>
      cases known
      exact .parts (List.contains_iff_mem.mp listed)
    · split at known
      · next listed =>
        cases known
        exact .text (List.contains_iff_mem.mp listed)
      · cases known
  · split at known
    · next split =>
      cases known
      obtain ⟨rfl, filled⟩ := split
      exact .apart filled
    · cases known
  · cases known

/-- An operation of texts without arguments, or a split by what is not empty, does not fail. -/
theorem meets_onText {arguments : List (Passing × Expression)} (text : Text)
    (known : methodKind? name arguments = some kind) :
    ∃ given, (∀ scope, evaluateArguments scope {} arguments = pure given) ∧
      Meets Own (Item.Fits kind) (onText text name given) := by
  cases known_of_methodKind? known with
  | parts listed =>
    refine ⟨{}, fun _ => rfl, ?_⟩
    simp only [List.mem_cons, List.not_mem_nil, or_false] at listed
    rcases listed with rfl | rfl <;> exact fits_texts _
  | text listed =>
    refine ⟨{}, fun _ => rfl, ?_⟩
    simp only [List.mem_cons, List.not_mem_nil, or_false] at listed
    rcases listed with rfl | rfl | rfl | rfl | rfl <;> exact .of_text _
  | @apart separator filled =>
    refine ⟨{ placed := [.ofValue (.text separator)] }, fun _ => rfl, ?_⟩
    show Meets Own _ (if separator.isEmpty = true then _ else _)
    rw [if_neg (by simp [filled])]
    exact fits_texts _

theorem listed_of_methodKind? {arguments : List (Passing × Expression)}
    (known : methodKind? name arguments = some kind) : ofTexts.contains name = true := by
  cases known_of_methodKind? known with
  | parts listed => revert name; decide
  | text listed => revert name; decide
  | apart filled => decide

end Operation

/-- A text has the operation, unless it has no value itself. -/
theorem meets_method {arguments : List (Passing × Expression)} (fits : owner.Fits .text)
    (known : methodKind? name arguments = some kind) :
    Meets Own (fun callee => ∃ text, callee = .operation (.ofText text) name) (partOf owner name) := by
  have listed := Operation.listed_of_methodKind? known
  rcases fits.text rfl with ⟨what, rfl⟩ | ⟨text, rfl⟩
  · exact rfl
  · have member : member? (.ofText text) name = some (.operation (.ofText text) name) := if_pos listed
    refine (meets_settled (.ofText text)).bind ?_
    rintro _ ⟨rfl, _⟩
    split
    · next part found =>
      rw [member] at found
      cases found
      exact ⟨text, rfl⟩
    · next absent _ => simp [member] at absent
    · next absent _ => simp [member] at absent

/-- A formatted item is of the kind that it was of. -/
theorem gives_formatted (fits : item.Fits kind) : Work.Gives (Item.Fits kind) (formatted item) := by
  rw [formatted]
  split
  · exact fun formatted => .of_text formatted
  · exact fits

theorem gives_callItem_formatter (fits : given.Fits (some kind)) {callee : Item}
    (formats : callee = .formatter ∨ ∃ what, callee = .missing what) :
    Work.Gives (Item.Fits kind) (callItem callee given) := by
  rcases formats with rfl | ⟨what, rfl⟩
  · cases fits with
    | placed fits => exact gives_formatted fits
  · exact rfl

namespace Filter

variable {operand : Kind} {argument : Option Kind}

theorem meets_whenMissing (fits : item.Fits operand) (given_ : given.Fits argument) :
    Meets Own (Item.Fits (operand.meet (argument.getD .text))) (whenMissing item given) := by
  cases given_ with
  | none =>
    unfold whenMissing
    split
    · exact Item.Fits.of_text []
    · next absurd_ => cases absurd_
    · exact fits.meet_left _
  | @placed kind other otherFits =>
    unfold whenMissing
    split
    · exact otherFits.meet_right _
    · next absurd_ => cases absurd_
    · exact fits.meet_left _

theorem meets_joined (fits : item.Fits operand) (iterable : operand ≠ .item)
    (given_ : given.Fits argument) : Meets Own (Item.Fits .text) (joined item given) := by
  have between : ((argument? given 0 "d").getD (.ofText [])).isPlain = true := by
    cases given_ with
    | none => rfl
    | placed fits => exact fits.plain
  refine (meets_printed between).bind fun between _ => ?_
  refine (meets_elements fits.plain (fits.iterable iterable)).bind fun items plain => ?_
  refine (Meets.mapM fun item member => meets_printed (plain item member)).bind fun parts _ => ?_
  exact Item.Fits.of_text _

theorem meets_edge (side : String) {items : List Item} (plain : ∀ item ∈ items, item.isPlain = true) :
    (edge side items).Fits .item := by
  cases items with
  | nil => exact .of_missing _
  | cons item items => exact .of_plain (plain item List.mem_cons_self)

theorem meets_reversed (fits : item.Fits operand) (iterable : operand ≠ .item) :
    Meets Own (Item.Fits .elements) (reversed item) := by
  unfold reversed
  split
  · exact Item.Fits.of_text _
  · refine (meets_elements fits.plain (fits.iterable iterable)).bind fun items plain => ?_
    refine .of_elements (arePlain_iff.mpr fun item member => ?_) rfl
    exact plain item (List.mem_reverse.mp member)

/-- Filters whose kind is known, by the kinds of operand and argument. -/
inductive Known (operand : Kind) : String → Option Kind → Kind → Prop where
  | standIn {name : String} {argument : Option Kind} (listed : name ∈ ["d", "default"]) :
      Known operand name argument (operand.meet (argument.getD .text))
  | join {argument : Option Kind} (iterable : operand ≠ .item) : Known operand "join" argument .text
  | printed {name : String}
      (listed : name ∈ ["e", "escape", "lower", "safe", "string", "trim", "upper"]) :
      Known operand name none .text
  | edge {name : String} (listed : name ∈ ["first", "last"]) (iterable : operand ≠ .item) :
      Known operand name none .item
  | elements {name : String} (listed : name ∈ ["list", "reverse"]) (iterable : operand ≠ .item) :
      Known operand name none .elements

theorem known_of_filterKind? (known : filterKind? name operand argument = some kind) :
    Known operand name argument kind := by
  unfold filterKind? at known
  split at known
  · next listed =>
    cases known
    exact .standIn (List.contains_iff_mem.mp listed)
  · split at known
    · next join =>
      subst join
      split at known
      · cases known
      · next iterable =>
        cases known
        exact .join iterable
    · cases argument with
      | some kind => cases known
      | none =>
        rw [if_neg (by simp)] at known
        split at known
        · next listed =>
          cases known
          exact .printed (List.contains_iff_mem.mp listed)
        · split at known
          · cases known
          · next iterable =>
            split at known
            · next listed =>
              cases known
              exact .edge (List.contains_iff_mem.mp listed) iterable
            · split at known
              · next listed =>
                cases known
                exact .elements (List.contains_iff_mem.mp listed) iterable
              · cases known

/-- A filter whose kind is known does not fail on what it is known for. -/
theorem meets_apply (fits : item.Fits operand) (given_ : given.Fits argument)
    (known : filterKind? name operand argument = some kind) :
    Meets Own (Item.Fits kind) (apply name item given) := by
  cases known_of_filterKind? known with
  | standIn listed =>
    simp only [List.mem_cons, List.not_mem_nil, or_false] at listed
    rcases listed with rfl | rfl <;> exact meets_whenMissing fits given_
  | join iterable => exact meets_joined fits iterable given_
  | printed listed =>
    cases given_
    have printed := meets_printed fits.plain
    simp only [List.mem_cons, List.not_mem_nil, or_false] at listed
    rcases listed with rfl | rfl | rfl | rfl | rfl | rfl | rfl <;>
      exact printed.bind fun text _ => Item.Fits.of_text _
  | edge listed iterable =>
    cases given_
    have elements := meets_elements fits.plain (fits.iterable iterable)
    simp only [List.mem_cons, List.not_mem_nil, or_false] at listed
    rcases listed with rfl | rfl
    · exact elements.bind fun items plain => meets_edge "first" plain
    · exact elements.bind fun items plain => meets_edge "last" fun item member =>
        plain item (List.mem_reverse.mp member)
  | elements listed iterable =>
    cases given_
    have elements := meets_elements fits.plain (fits.iterable iterable)
    simp only [List.mem_cons, List.not_mem_nil, or_false] at listed
    rcases listed with rfl | rfl
    · exact elements.map fun items plain => .of_elements (arePlain_iff.mpr plain) rfl
    · exact meets_reversed fits iterable

end Filter

/-- A test of the sort of an item does not fail. -/
theorem Test.holds_of_sort (listed : sortTests.contains name = true) (item : Item) :
    Test.holds name item {} = pure (Test.ofKind name item) := by
  simp only [sortTests, List.contains_eq_mem, List.mem_cons, List.not_mem_nil, or_false,
    decide_eq_true_eq] at listed
  rcases listed with rfl | rfl | rfl | rfl | rfl | rfl | rfl | rfl | rfl | rfl | rfl | rfl | rfl <;> rfl

theorem meets_help_test (listed : sortTests.contains name = true) (item : Item) :
    Meets Own (Item.Fits .item) (help .test name item {}) := by
  rw [help]
  split
  · exact rfl
  · simp only [Test.holds_of_sort listed]
    exact Item.Fits.of_plain rfl

theorem meets_help_filter {operand : Kind} {argument : Option Kind} (fits : item.Fits operand)
    (given_ : given.Fits argument) (known : filterKind? name operand argument = some kind) :
    Meets Own (Item.Fits kind) (help .filter name item given) := by
  rw [help]
  split
  · exact rfl
  · exact Filter.meets_apply fits given_ known

theorem meets_compare {comparator : Comparator} (equality : isEquality comparator = true)
    (left right : Item) : Meets Own (fun _ => True) (compare comparator left right) := by
  cases comparator with
  | equal => exact meets_same left right
  | different => exact (meets_same left right).bind fun _ _ => trivial
  | _ => cases equality

section Steps

variable {left right operand index : Expression} {arguments : List (Passing × Expression)}
  {leftKind rightKind operandKind indexKind : Kind}

theorem gives_part (gives : Work.Gives (Item.Fits operandKind) (evaluate scope operand)) :
    Work.Gives (Item.Fits .item) (evaluate scope (.part operand name)) := by
  refine gives.bind fun item fits => ?_
  exact .lift ((meets_partOf fits.plain).imp fun _ => .of_plain)

theorem gives_item (gives : Work.Gives (Item.Fits operandKind) (evaluate scope operand))
    (indexGives : Work.Gives (Item.Fits indexKind) (evaluate scope index)) :
    Work.Gives (Item.Fits .item) (evaluate scope (.item operand index)) := by
  refine gives.bind fun item fits => indexGives.bind fun place _ => ?_
  exact .lift ((meets_itemOf place fits.plain).imp fun _ => .of_plain)

theorem gives_callFormatter (tame : scope.Tame)
    (gives : Work.Gives (Given.Fits (some kind)) (evaluateArguments scope {} arguments)) :
    Work.Gives (Item.Fits kind) (evaluate scope (.call (.name formatterName) arguments)) := by
  rw [evaluate, evaluate]
  exact gives.bind fun given fits => gives_callItem_formatter fits tame.lookUp_formatter

theorem gives_callMethod (gives : Work.Gives (Item.Fits .text) (evaluate scope operand))
    (known : methodKind? name arguments = some kind) :
    Work.Gives (Item.Fits kind) (evaluate scope (.call (.part operand name) arguments)) := by
  have method : Work.Gives (fun callee => ∃ text, callee = .operation (.ofText text) name)
      (evaluate scope (.part operand name)) := by
    rw [evaluate]
    exact gives.bind fun item fits => .lift (meets_method fits known)
  rw [evaluate]
  refine method.bind ?_
  rintro _ ⟨text, rfl⟩
  obtain ⟨given, evaluated, meets⟩ := Operation.meets_onText (String.ofList text).toList known
  rw [evaluated]
  exact meets

theorem gives_filter {argument : Option Kind}
    (gives : Work.Gives (Item.Fits operandKind) (evaluate scope operand))
    (argumentsGive : Work.Gives (Given.Fits argument) (evaluateArguments scope {} arguments))
    (known : filterKind? name operandKind argument = some kind) :
    Work.Gives (Item.Fits kind) (evaluate scope (.passed .filter name operand arguments)) := by
  refine gives.bind fun item fits => argumentsGive.bind fun given given_ => ?_
  exact .lift (meets_help_filter fits given_ known)

theorem gives_test (gives : Work.Gives (Item.Fits operandKind) (evaluate scope operand))
    (listed : sortTests.contains name = true) :
    Work.Gives (Item.Fits .item) (evaluate scope (.passed .test name operand [])) := by
  exact gives.bind fun item _ => .lift (meets_help_test listed item)

theorem gives_negation (gives : Work.Gives (Item.Fits operandKind) (evaluate scope operand)) :
    Work.Gives (Item.Fits .item) (evaluate scope (.negation operand)) := by
  refine gives.bind fun item _ => ?_
  exact (Work.Gives.lift (meets_isTrue item)).bind fun _ _ => Item.Fits.of_plain rfl

theorem gives_both (leftGives : Work.Gives (Item.Fits leftKind) (evaluate scope left))
    (rightGives : Work.Gives (Item.Fits rightKind) (evaluate scope right)) :
    Work.Gives (Item.Fits (leftKind.meet rightKind)) (evaluate scope (.both left right)) := by
  refine leftGives.bind fun first fits => (Work.Gives.lift (meets_isTrue first)).bind fun truth _ => ?_
  split
  · exact rightGives.imp fun _ fits => fits.meet_right _
  · exact fits.meet_left _

theorem gives_either (leftGives : Work.Gives (Item.Fits leftKind) (evaluate scope left))
    (rightGives : Work.Gives (Item.Fits rightKind) (evaluate scope right)) :
    Work.Gives (Item.Fits (leftKind.meet rightKind)) (evaluate scope (.either left right)) := by
  refine leftGives.bind fun first fits => (Work.Gives.lift (meets_isTrue first)).bind fun truth _ => ?_
  split
  · exact fits.meet_left _
  · exact rightGives.imp fun _ fits => fits.meet_right _

theorem gives_choice (gives : Work.Gives (Item.Fits operandKind) (evaluate scope operand))
    (leftGives : Work.Gives (Item.Fits leftKind) (evaluate scope left))
    (rightGives : Work.Gives (Item.Fits rightKind) (evaluate scope right)) :
    Work.Gives (Item.Fits (leftKind.meet rightKind))
      (evaluate scope (.choice operand left right)) := by
  refine gives.bind fun item _ => (Work.Gives.lift (meets_isTrue item)).bind fun truth _ => ?_
  split
  · exact leftGives.imp fun _ fits => fits.meet_left _
  · exact rightGives.imp fun _ fits => fits.meet_right _

end Steps

section Lists

variable {expressions : List Expression}

/-- Joined items are written one by one. -/
theorem gives_joined (gives : Work.Gives (fun items => arePlain items = true)
      (evaluateAll scope expressions)) :
    Work.Gives (Item.Fits .text) (evaluate scope (.joined expressions)) := by
  refine gives.bind fun items plain => ?_
  refine (Work.Gives.lift (Meets.mapM fun item member =>
    meets_printed (arePlain_iff.mp plain item member))).bind fun texts _ => ?_
  exact Item.Fits.of_text _

theorem gives_list (gives : Work.Gives (fun items => arePlain items = true)
      (evaluateAll scope expressions)) :
    Work.Gives (Item.Fits .elements) (evaluate scope (.list expressions)) := by
  exact gives.bind fun items plain => Item.Fits.of_elements plain rfl

theorem gives_tuple (gives : Work.Gives (fun items => arePlain items = true)
      (evaluateAll scope expressions)) :
    Work.Gives (Item.Fits .elements) (evaluate scope (.tuple expressions)) := by
  exact gives.bind fun items plain => Item.Fits.of_elements plain rfl

end Lists

mutual

/-- An expression of a kind gives an item of the kind, or it fails by the template's own fault. -/
theorem gives_evaluate (tame : scope.Tame) : ∀ (expression : Expression) (kind : Kind),
    expression.kind? = some kind → Work.Gives (Item.Fits kind) (evaluate scope expression)
  | .constant value, kind, known => by
    rw [Expression.kind?] at known
    split at known
    · next writable =>
      cases known
      exact Item.fits_ofValue writable
    · cases known
  | .name name, kind, known => by
    rw [Expression.kind?] at known
    split at known
    · cases known
    · next ordinary =>
      cases known
      exact tame.fits_lookUp ordinary
  | .part owner name, kind, known => by
    rw [Expression.kind?, Option.map_eq_some_iff] at known
    obtain ⟨ownerKind, known, rfl⟩ := known
    exact gives_part (gives_evaluate tame owner ownerKind known)
  | .item owner index, kind, known => by
    rw [Expression.kind?, Option.bind_eq_some_iff] at known
    obtain ⟨ownerKind, ownerKnown, known⟩ := known
    obtain ⟨indexKind, indexKnown, rfl⟩ := Option.map_eq_some_iff.mp known
    exact gives_item (gives_evaluate tame owner ownerKind ownerKnown)
      (gives_evaluate tame index indexKind indexKnown)
  | .call callee arguments, kind, known => by
    cases callee with
    | name name =>
      rw [Expression.kind?] at known
      split at known
      · next formats =>
        subst formats
        exact gives_callFormatter tame
          (gives_evaluateArguments tame arguments (some kind) (Option.join_eq_some_iff.mp known))
      · cases known
    | part owner name =>
      rw [Expression.kind?] at known
      split at known
      · next textual => exact gives_callMethod (gives_evaluate tame owner .text textual) known
      · cases known
    | _ => simp [Expression.kind?] at known
  | .passed .filter name operand arguments, kind, known => by
    rw [Expression.kind?, Option.bind_eq_some_iff] at known
    obtain ⟨operandKind, operandKnown, known⟩ := known
    obtain ⟨argument, argumentKnown, known⟩ := Option.bind_eq_some_iff.mp known
    exact gives_filter (gives_evaluate tame operand operandKind operandKnown)
      (gives_evaluateArguments tame arguments argument argumentKnown) known
  | .passed .test name operand arguments, kind, known => by
    rw [Expression.kind?] at known
    split at known
    · next sort =>
      rw [Bool.and_eq_true, List.isEmpty_iff] at sort
      obtain ⟨listed, rfl⟩ := sort
      obtain ⟨operandKind, operandKnown, rfl⟩ := Option.map_eq_some_iff.mp known
      exact gives_test (gives_evaluate tame operand operandKind operandKnown) listed
    · cases known
  | .negation operand, kind, known => by
    rw [Expression.kind?, Option.map_eq_some_iff] at known
    obtain ⟨operandKind, known, rfl⟩ := known
    exact gives_negation (gives_evaluate tame operand operandKind known)
  | .both left right, kind, known => by
    rw [Expression.kind?, Option.bind_eq_some_iff] at known
    obtain ⟨leftKind, leftKnown, known⟩ := known
    obtain ⟨rightKind, rightKnown, rfl⟩ := Option.map_eq_some_iff.mp known
    exact gives_both (gives_evaluate tame left leftKind leftKnown)
      (gives_evaluate tame right rightKind rightKnown)
  | .either left right, kind, known => by
    rw [Expression.kind?, Option.bind_eq_some_iff] at known
    obtain ⟨leftKind, leftKnown, known⟩ := known
    obtain ⟨rightKind, rightKnown, rfl⟩ := Option.map_eq_some_iff.mp known
    exact gives_either (gives_evaluate tame left leftKind leftKnown)
      (gives_evaluate tame right rightKind rightKnown)
  | .comparison first others, kind, known => by
    rw [Expression.kind?] at known
    split at known
    · next equalities =>
      obtain ⟨firstKind, firstKnown, rfl⟩ := Option.map_eq_some_iff.mp known
      rw [evaluate]
      refine (gives_evaluate tame first firstKind firstKnown).bind fun left _ => ?_
      exact (gives_evaluateComparisons tame others left equalities).bind fun _ _ => Item.Fits.of_plain rfl
    · cases known
  | .joined parts, kind, known => by
    rw [Expression.kind?] at known
    split at known
    · next all =>
      cases known
      exact gives_joined (gives_evaluateAll tame parts all)
    · cases known
  | .choice condition whenTrue whenFalse, kind, known => by
    rw [Expression.kind?, Option.bind_eq_some_iff] at known
    obtain ⟨conditionKind, conditionKnown, known⟩ := known
    obtain ⟨trueKind, trueKnown, known⟩ := Option.bind_eq_some_iff.mp known
    obtain ⟨falseKind, falseKnown, rfl⟩ := Option.map_eq_some_iff.mp known
    exact gives_choice (gives_evaluate tame condition conditionKind conditionKnown)
      (gives_evaluate tame whenTrue trueKind trueKnown)
      (gives_evaluate tame whenFalse falseKind falseKnown)
  | .list items, kind, known => by
    rw [Expression.kind?] at known
    split at known
    · next all =>
      cases known
      exact gives_list (gives_evaluateAll tame items all)
    · cases known
  | .tuple items, kind, known => by
    rw [Expression.kind?] at known
    split at known
    · next all =>
      cases known
      exact gives_tuple (gives_evaluateAll tame items all)
    · cases known
  | .slice _ _ _ _, _, known => by cases known
  | .arithmetic _ _ _, _, known => by cases known
  | .signed _ _, _, known => by cases known
  | .map _, _, known => by cases known

theorem gives_evaluateAll (tame : scope.Tame) : ∀ expressions : List Expression,
    areTame expressions = true → Work.Gives (fun items => arePlain items = true) (evaluateAll scope expressions)
  | [], _ => rfl
  | expression :: rest, known => by
    rw [areTame, Bool.and_eq_true] at known
    obtain ⟨kind, first⟩ := Option.isSome_iff_exists.mp known.1
    rw [evaluateAll]
    refine (gives_evaluate tame expression kind first).bind fun item fits => ?_
    refine (gives_evaluateAll tame rest known.2).bind fun items plain => ?_
    show (item.isPlain && arePlain items) = true
    rw [fits.plain, plain]
    rfl

theorem gives_evaluateArguments (tame : scope.Tame) :
    ∀ (arguments : List (Passing × Expression)) (argument : Option Kind),
      argumentKind? arguments = some argument →
        Work.Gives (Given.Fits argument) (evaluateArguments scope {} arguments)
  | [], argument, known => by
    cases known
    exact Given.Fits.none
  | [(.placed, expression)], argument, known => by
    rw [argumentKind?] at known
    obtain ⟨kind, here, rfl⟩ := Option.map_eq_some_iff.mp known
    rw [evaluateArguments]
    exact (gives_evaluate tame expression kind here).bind fun item fits => Given.Fits.placed fits
  | (.named _, _) :: _, _, known => by cases known
  | (.spread, _) :: _, _, known => by cases known
  | (.spreadNamed, _) :: _, _, known => by cases known
  | (.placed, _) :: _ :: _, _, known => by cases known

theorem gives_evaluateComparisons (tame : scope.Tame) :
    ∀ (others : List (Comparator × Expression)) (left : Item), comparisonsAreTame others = true →
      Work.Gives (fun _ => True) (evaluateComparisons scope left others)
  | [], _, _ => trivial
  | (comparator, expression) :: rest, left, known => by
    simp only [comparisonsAreTame, Bool.and_eq_true] at known
    obtain ⟨⟨equality, first⟩, known⟩ := known
    obtain ⟨kind, first⟩ := Option.isSome_iff_exists.mp first
    rw [evaluateComparisons]
    refine (gives_evaluate tame expression kind first).bind fun right _ => ?_
    refine (Work.Gives.lift (meets_compare equality left right)).bind fun holds _ => ?_
    split
    · exact gives_evaluateComparisons tame rest right known
    · trivial

end

end Transclusion.Template
