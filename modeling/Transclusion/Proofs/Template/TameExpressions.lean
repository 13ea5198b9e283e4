import Transclusion.Proofs.Template.PlainItems

/-!
Expressions that fail only for want of a value. A kind is found for an expression by its form
alone: what it stands for is then a text, can be iterated over, or is at least plain, whatever
plain values the names in it stand for. Calculating and ordering have no kind, since they fail on
values of the wrong sort; nor have the rounds of loops.
-/

namespace Transclusion.Template

/-- What is known of the items that an expression stands for. -/
inductive Kind where
  | item
  | elements
  | text
  deriving DecidableEq, Repr

namespace Kind

/-- What is known of the items of both kinds. -/
def meet : Kind → Kind → Kind
  | .text, .text => .text
  | .item, _ => .item
  | _, .item => .item
  | _, _ => .elements

def ofValue : Value → Kind
  | .text _ => .text
  | _ => .item

end Kind

/-- Names for texts in every template. -/
def textNames : List String := ["name", "value"]

def formatterName : String := "format_text"

def roundName : String := "loop"

/-- Names that keep what they stand for. -/
def keptNames : List String := roundName :: formatterName :: textNames

/-- The kind of what an operation of texts gives that cannot fail on its arguments. -/
def methodKind? (name : String) (arguments : List (Passing × Expression)) : Option Kind :=
  match arguments with
  | [] =>
      if ["split", "splitlines"].contains name then some .elements
      else if ["lower", "lstrip", "rstrip", "strip", "upper"].contains name then some .text
      else none
  | [(.placed, .constant (.text separator))] =>
      if name = "split" ∧ separator.isEmpty = false then some .elements else none
  | _ => none

/-- The kind of what a filter gives that cannot fail on its operand and its argument. -/
def filterKind? (name : String) (operand : Kind) (argument : Option Kind) : Option Kind :=
  if ["d", "default"].contains name then some (operand.meet (argument.getD .text))
  else if name = "join" then if operand = .item then none else some .text
  else if argument.isSome then none
  else if ["e", "escape", "lower", "safe", "string", "trim", "upper"].contains name then some .text
  else if operand = .item then none
  else if ["first", "last"].contains name then some .item
  else if ["list", "reverse"].contains name then some .elements
  else none

/-- Tests that look at the sort of an item alone. -/
def sortTests : List String :=
  ["boolean", "callable", "defined", "false", "float", "integer", "mapping", "none", "number",
   "sequence", "string", "true", "undefined"]

def isEquality : Comparator → Bool
  | .equal => true
  | .different => true
  | _ => false

mutual

/-- The kind of an expression that fails only for want of a value. -/
def Expression.kind? : Expression → Option Kind
  | .constant value => if value.hasText then some (Kind.ofValue value) else none
  | .name name =>
      if name = roundName then none else some (if textNames.contains name then .text else .item)
  | .part owner _ => owner.kind?.map fun _ => .item
  | .item owner index => owner.kind?.bind fun _ => index.kind?.map fun _ => .item
  | .call (.name name) arguments =>
      if name = formatterName then (argumentKind? arguments).join else none
  | .call (.part owner name) arguments =>
      if owner.kind? = some .text then methodKind? name arguments else none
  | .passed .filter name operand arguments =>
      operand.kind?.bind fun kind => (argumentKind? arguments).bind (filterKind? name kind)
  | .passed .test name operand arguments =>
      if sortTests.contains name && arguments.isEmpty then operand.kind?.map fun _ => .item else none
  | .negation operand => operand.kind?.map fun _ => .item
  | .both left right => left.kind?.bind fun kind => right.kind?.map kind.meet
  | .either left right => left.kind?.bind fun kind => right.kind?.map kind.meet
  | .comparison first others =>
      if comparisonsAreTame others then first.kind?.map fun _ => .item else none
  | .joined parts => if areTame parts then some .text else none
  | .choice condition whenTrue whenFalse =>
      condition.kind?.bind fun _ => whenTrue.kind?.bind fun kind => whenFalse.kind?.map kind.meet
  | .list items => if areTame items then some .elements else none
  | .tuple items => if areTame items then some .elements else none
  | _ => none

def areTame : List Expression → Bool
  | [] => true
  | expression :: rest => expression.kind?.isSome && areTame rest

/-- The kind of the one argument of a call, if there is one. -/
def argumentKind? : List (Passing × Expression) → Option (Option Kind)
  | [] => some none
  | [(.placed, argument)] => argument.kind?.map some
  | _ => none

def comparisonsAreTame : List (Comparator × Expression) → Bool
  | [] => true
  | (comparator, expression) :: rest =>
      isEquality comparator && expression.kind?.isSome && comparisonsAreTame rest

end

namespace Item

/-- The item has no value, or it is of the kind. -/
structure Fits (kind : Kind) (item : Item) : Prop where
  plain : item.isPlain = true
  iterable : kind ≠ .item → (∃ what, item = .missing what) ∨ item.elements?.isSome = true
  text : kind = .text → (∃ what, item = .missing what) ∨ ∃ text, item = .ofText text

variable {item : Item} {kind kind' : Kind}

theorem Fits.of_missing (what : Missing) : (Item.missing what).Fits kind :=
  ⟨rfl, fun _ => .inl ⟨what, rfl⟩, fun _ => .inl ⟨what, rfl⟩⟩

theorem Fits.of_text (text : Text) : (ofText text).Fits kind :=
  ⟨rfl, fun _ => .inr rfl, fun _ => .inr ⟨text, rfl⟩⟩

theorem Fits.of_content (content : String) : (Item.scalar (.text content)).Fits kind := by
  have same : Item.scalar (.text content) = ofText content.toList := by
    rw [ofText, String.ofList_toList]
  exact same ▸ .of_text content.toList

theorem Fits.of_plain (plain : item.isPlain = true) : item.Fits .item :=
  ⟨plain, by simp, by simp⟩

theorem Fits.of_elements (plain : item.isPlain = true) (iterable : item.elements?.isSome = true) :
    item.Fits .elements :=
  ⟨plain, fun _ => .inr iterable, by simp⟩

theorem Fits.meet_left (fits : item.Fits kind) (kind' : Kind) : item.Fits (kind.meet kind') := by
  refine ⟨fits.plain, fun known => fits.iterable ?_, fun known => fits.text ?_⟩ <;>
    cases kind <;> cases kind' <;> simp_all [Kind.meet]

theorem Fits.meet_right (fits : item.Fits kind') (kind : Kind) : item.Fits (kind.meet kind') := by
  refine ⟨fits.plain, fun known => fits.iterable ?_, fun known => fits.text ?_⟩ <;>
    cases kind <;> cases kind' <;> simp_all [Kind.meet]

theorem fits_ofValue {value : Value} (writable : value.hasText = true) :
    (ofValue value).Fits (Kind.ofValue value) := by
  have plain : (ofValue value).isPlain = true := by rw [isPlain_ofValue, writable]
  cases value with
  | text content => exact .of_content content
  | _ => exact .of_plain plain

end Item

/-- What the names that tame expressions may use stand for. -/
structure Scope.Tame (scope : Scope) : Prop where
  plain : ∀ name item, scope.lookup name = some item → name ≠ roundName → item.isPlain = true
  text : ∀ name ∈ textNames, ∀ item, scope.lookup name = some item → ∃ text, item = .ofText text
  formatter : ∀ item, scope.lookup formatterName = some item → item = .formatter

namespace Scope.Tame

variable {scope : Scope}

theorem nil : Scope.Tame [] := ⟨by simp, by simp, by simp⟩

theorem cons (tame : scope.Tame) {name : String} {item : Item} (free : name ∉ keptNames)
    (plain : item.isPlain = true) : Scope.Tame ((name, item) :: scope) := by
  have differs : ∀ kept ∈ keptNames, (kept == name) = false := fun kept member =>
    beq_eq_false_iff_ne.mpr fun same => free (same ▸ member)
  refine ⟨fun other found looked ordinary => ?_, fun other listed found looked => ?_,
    fun found looked => ?_⟩
  · rw [List.lookup_cons] at looked
    split at looked
    · cases looked
      exact plain
    · exact tame.plain other found looked ordinary
  · rw [List.lookup_cons, differs other (by simp [keptNames, listed])] at looked
    exact tame.text other listed found looked
  · rw [List.lookup_cons, differs _ (by simp [keptNames])] at looked
    exact tame.formatter found looked

/-- The rounds of a loop are under a name of their own. -/
theorem cons_round (tame : scope.Tame) (item : Item) : Scope.Tame ((roundName, item) :: scope) := by
  have differs : ∀ name, name ≠ roundName → (name == roundName) = false := fun name other =>
    beq_eq_false_iff_ne.mpr other
  refine ⟨fun other found looked ordinary => ?_, fun other listed found looked => ?_,
    fun found looked => ?_⟩
  · rw [List.lookup_cons, differs other ordinary] at looked
    exact tame.plain other found looked ordinary
  · have ordinary : other ≠ roundName := by
      rintro rfl
      exact absurd listed (by decide)
    rw [List.lookup_cons, differs other ordinary] at looked
    exact tame.text other listed found looked
  · rw [List.lookup_cons, differs _ (by decide)] at looked
    exact tame.formatter found looked

theorem fits_lookUp (tame : scope.Tame) {name : String} (ordinary : name ≠ roundName) :
    (lookUp scope name).Fits (if textNames.contains name then .text else .item) := by
  rw [lookUp]
  cases looked : scope.lookup name with
  | some item =>
    rw [Option.some_or, Option.getD_some]
    split
    · next listed =>
      obtain ⟨text, rfl⟩ := tame.text name (by simpa using listed) item looked
      exact .of_text text
    · exact .of_plain (tame.plain name item looked ordinary)
  | none =>
    rw [Option.none_or]
    split
    · next listed =>
      have unknown : standing.lookup name = none := by
        simp only [textNames, List.contains_eq_mem, List.mem_cons, List.not_mem_nil, or_false,
          decide_eq_true_eq] at listed
        rcases listed with rfl | rfl <;> rfl
      rw [unknown]
      exact .of_missing _
    · cases found : standing.lookup name with
      | none => exact .of_missing _
      | some item =>
        rw [standing, List.lookup_cons] at found
        split at found
        · cases found
          exact .of_plain rfl
        · cases found

theorem lookUp_formatter (tame : scope.Tame) :
    lookUp scope formatterName = .formatter ∨ ∃ what, lookUp scope formatterName = .missing what := by
  rw [lookUp]
  cases looked : scope.lookup formatterName with
  | some item =>
    left
    exact tame.formatter item looked
  | none => exact .inr ⟨_, rfl⟩

end Scope.Tame

/-- However texts are formatted, the work fails by the template's own fault only, and its result is
as it should be. -/
def Work.Gives {Result : Type} (holds : Result → Prop) (work : Work Result) : Prop :=
  Rendering.Ends (Meets Own holds) work.run

namespace Work.Gives

variable {First Result : Type} {holds weaker : Result → Prop} {before : First → Prop}

theorem pure {result : Result} (here : holds result) : Work.Gives holds (Pure.pure result) := here

theorem lift {outcome : Outcome Result} (meets : Meets Own holds outcome) :
    Work.Gives holds (liftM outcome : Work Result) := meets

theorem bind {work : Work First} {next : First → Work Result} (gives : Work.Gives before work)
    (later : ∀ found, before found → Work.Gives holds (next found)) :
    Work.Gives holds (work >>= next) := by
  show Rendering.Ends _ (work.run >>= _)
  refine Rendering.Ends.bind gives fun outcome meets => ?_
  cases outcome with
  | error fault => exact meets
  | ok found => exact later found meets

theorem imp {work : Work Result} (gives : Work.Gives holds work)
    (implies : ∀ found, holds found → weaker found) : Work.Gives weaker work :=
  Rendering.Ends.imp gives fun _ meets => Meets.imp meets implies

theorem mapM {items : List First} {read : First → Work Result}
    (gives : ∀ item ∈ items, Work.Gives holds (read item)) :
    Work.Gives (fun results => ∀ result ∈ results, holds result) (items.mapM read) := by
  induction items with
  | nil => exact fun _ member => absurd member List.not_mem_nil
  | cons item items ih =>
    rw [List.mapM_cons]
    refine (gives item List.mem_cons_self).bind fun result here => ?_
    refine (ih fun other member => gives other (List.mem_cons_of_mem _ member)).bind ?_
    intro results there other member
    cases member with
    | head => exact here
    | tail _ later => exact there other later

end Work.Gives

end Transclusion.Template
