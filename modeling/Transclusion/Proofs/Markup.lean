import Transclusion.Proofs.Markers
import Transclusion.Text.Casefold

/-!
The tags of a text and when they are balanced. A tag begins with an angle bracket before a
letter, or before a stroke and a letter, and ends at the next closing bracket; another opening
bracket in between gives it up. Tags are balanced when each one begun is ended and each
closing tag closes the element that was opened last. A void element has an opening tag only,
and that tag and a self-closing one leave nothing open.
-/

namespace Transclusion.Markup

inductive Tag where
  | opens (name : Text)
  | closes (name : Text)
  | alone
  deriving DecidableEq, Repr

/-- Elements that have no content and no closing tag. -/
def voidElements : List String :=
  ["area", "base", "br", "col", "embed", "hr", "img", "input", "link", "meta", "param", "source",
    "track", "wbr"]

/-- Up to a blank or a stroke, without regard to case. -/
def elementName (inner : Text) : Text :=
  Text.fold (inner.takeWhile fun c => !(Text.isBlank c || c == '/'))

/-- The tag with this text between its brackets. -/
def tagOf : Text → Tag
  | '/' :: inner => .closes (elementName inner)
  | inner =>
      if inner.getLast? = some '/' ∨ String.ofList (elementName inner) ∈ voidElements then .alone
      else .opens (elementName inner)

/-- Whether what follows an angle bracket can be the beginning of a tag. -/
def begins : Text → Bool
  | [] => true
  | ['/'] => true
  | '/' :: c :: _ => isLetterForm c
  | c :: _ => isLetterForm c

/-- The tag that a closing bracket ends, when there is one. -/
def ended : Option Text → List Tag
  | none => []
  | some inner => if inner = [] ∨ inner = ['/'] then [] else [tagOf inner]

/-- What has been read of the tag that a character stands in, after that character. -/
def advance (pending : Option Text) (c : Char) : Option Text :=
  if c = '<' then some []
  else if c = '>' then none
  else pending.bind fun inner => if begins (inner ++ [c]) then some (inner ++ [c]) else none

def pendingAfter (pending : Option Text) (text : Text) : Option Text := text.foldl advance pending

/-- The tags that a text ends, one of which may have been begun before it. -/
def tagsAfter : Option Text → Text → List Tag
  | _, [] => []
  | pending, c :: rest =>
      (if c = '>' then ended pending else []) ++ tagsAfter (advance pending c) rest

def tags (text : Text) : List Tag := tagsAfter none text

/-- No tag that was begun is left without its end. -/
def Outside (text : Text) : Prop := pendingAfter none text = none

/-- The elements that are open after a tag, the innermost first. -/
def close : List Text → Tag → Option (List Text)
  | elements, .alone => some elements
  | elements, .opens name => some (name :: elements)
  | innermost :: elements, .closes name => if innermost = name then some elements else none
  | [], .closes _ => none

/-- The elements that are open after some tags, when each closing tag among them answers to
the innermost element. -/
def closeAll (elements : List Text) (tags : List Tag) : Option (List Text) :=
  tags.foldlM close elements

structure Balanced (text : Text) : Prop where
  outside : Outside text
  closed : closeAll [] (tags text) = some []

instance (text : Text) : Decidable (Outside text) := by
  unfold Outside
  infer_instance

instance (text : Text) : Decidable (Balanced text) :=
  decidable_of_iff (Outside text ∧ closeAll [] (tags text) = some [])
    ⟨fun both => ⟨both.1, both.2⟩, fun balanced => ⟨balanced.outside, balanced.closed⟩⟩

section Reading

@[simp] theorem pendingAfter_nil (pending : Option Text) : pendingAfter pending [] = pending := rfl

@[simp] theorem pendingAfter_cons (pending : Option Text) (c : Char) (rest : Text) :
    pendingAfter pending (c :: rest) = pendingAfter (advance pending c) rest := rfl

theorem pendingAfter_append (pending : Option Text) (first second : Text) :
    pendingAfter pending (first ++ second) = pendingAfter (pendingAfter pending first) second :=
  List.foldl_append

theorem tagsAfter_append (pending : Option Text) (first second : Text) :
    tagsAfter pending (first ++ second) =
      tagsAfter pending first ++ tagsAfter (pendingAfter pending first) second := by
  induction first generalizing pending with
  | nil => rfl
  | cons c first ih => simp [tagsAfter, ih]

-- An opening bracket gives up what was begun before.
theorem advance_open (pending : Option Text) : advance pending '<' = some [] := rfl

theorem tagsAfter_open (pending : Option Text) (rest : Text) :
    tagsAfter pending ('<' :: rest) = tagsAfter none ('<' :: rest) := rfl

/-- A text without angle brackets. -/
def Flat (text : Text) : Prop := ∀ c ∈ text, isAngle c = false

theorem not_angle {c : Char} (flat : isAngle c = false) : c ≠ '<' ∧ c ≠ '>' := by
  simpa [isAngle] using flat

theorem Flat.append {first second : Text} (flat : Flat first) (flat' : Flat second) :
    Flat (first ++ second) := fun c member =>
  (List.mem_append.mp member).elim (flat c) (flat' c)

theorem tagsAfter_flat {text : Text} (flat : Flat text) (pending : Option Text) :
    tagsAfter pending text = [] := by
  induction text generalizing pending with
  | nil => rfl
  | cons c text ih =>
    have apart := not_angle (flat c List.mem_cons_self)
    simp [tagsAfter, apart.2, ih fun d member => flat d (List.mem_cons_of_mem c member)]

theorem pendingAfter_flat {text : Text} (flat : Flat text) : pendingAfter none text = none := by
  induction text with
  | nil => rfl
  | cons c text ih =>
    have apart := not_angle (flat c List.mem_cons_self)
    have stays : advance none c = none := by simp [advance, apart.1, apart.2]
    rw [pendingAfter_cons, stays]
    exact ih fun d member => flat d (List.mem_cons_of_mem c member)

/-- What stands between the brackets of a tag. -/
structure IsInner (inner : Text) : Prop where
  flat : Flat inner
  begins : begins inner = true
  present : inner ≠ [] ∧ inner ≠ ['/']

-- What begins a tag goes on to do so.
theorem begins_append {inner : Text} (present : inner ≠ [] ∧ inner ≠ ['/']) (more : Text) :
    begins (inner ++ more) = begins inner := by
  match inner, present with
  | [], present => exact absurd rfl present.1
  | [c], present =>
    have other : c ≠ '/' := fun same => present.2 (by rw [same])
    cases more <;> simp [begins, other]
  | c :: d :: rest, _ => by_cases stroke : c = '/' <;> simp [begins, stroke]

theorem begins_left {first second : Text} (whole : begins (first ++ second) = true) :
    begins first = true := by
  by_cases present : first ≠ [] ∧ first ≠ ['/']
  · rwa [begins_append present] at whole
  · rw [Decidable.not_and_iff_or_not, not_not, not_not] at present
    rcases present with rfl | rfl
    · rfl
    · rfl

theorem pendingAfter_begun {inner more : Text} (flat : Flat more)
    (whole : begins (inner ++ more) = true) :
    pendingAfter (some inner) more = some (inner ++ more) := by
  induction more generalizing inner with
  | nil => simp
  | cons c more ih =>
    have apart := not_angle (flat c List.mem_cons_self)
    have further : begins ((inner ++ [c]) ++ more) = true := by simpa using whole
    have next : advance (some inner) c = some (inner ++ [c]) := by
      simp [advance, apart.1, apart.2, begins_left further]
    rw [pendingAfter_cons, next, ih (fun d member => flat d (List.mem_cons_of_mem c member)) further]
    simp

theorem ended_inner {inner : Text} (shape : IsInner inner) : ended (some inner) = [tagOf inner] := by
  simp [ended, shape.present.1, shape.present.2]

/-- A whole tag is read as one, wherever it stands. -/
theorem tag_read {inner : Text} (shape : IsInner inner) (pending : Option Text) :
    tagsAfter pending ('<' :: inner ++ ['>']) = [tagOf inner] ∧
      pendingAfter pending ('<' :: inner ++ ['>']) = none := by
  have begun : pendingAfter (some []) inner = some inner :=
    pendingAfter_begun shape.flat (by simpa using shape.begins)
  constructor
  · rw [List.cons_append, tagsAfter_open, ← List.singleton_append, tagsAfter_append,
      tagsAfter_append]
    simp [tagsAfter, tagsAfter_flat shape.flat, advance_open, begun, ended_inner shape]
  · rw [List.cons_append, pendingAfter_cons, advance_open, pendingAfter_append, begun]
    rfl

end Reading

section Closing

@[simp] theorem closeAll_nil (elements : List Text) : closeAll elements [] = some elements := rfl

theorem closeAll_append (elements : List Text) (first second : List Tag) :
    closeAll elements (first ++ second) =
      (closeAll elements first).bind fun open_ => closeAll open_ second :=
  List.foldlM_append

theorem close_cons (elements : List Text) (tag : Tag) (tags : List Tag) :
    closeAll elements (tag :: tags) =
      (close elements tag).bind fun open_ => closeAll open_ tags := rfl

-- Elements that are open all the time do not matter to the tags inside them.
theorem close_within {elements after : List Text} {tag : Tag} (outer : List Text)
    (closed : close elements tag = some after) :
    close (elements ++ outer) tag = some (after ++ outer) := by
  cases tag with
  | alone =>
    cases closed
    rfl
  | opens name =>
    cases closed
    rfl
  | closes name =>
    cases elements with
    | nil => cases closed
    | cons innermost elements =>
      simp only [close] at closed
      split at closed
      · next same =>
        cases closed
        simp [close, same]
      · cases closed

theorem closeAll_within {elements after : List Text} {tags : List Tag} (outer : List Text)
    (closed : closeAll elements tags = some after) :
    closeAll (elements ++ outer) tags = some (after ++ outer) := by
  induction tags generalizing elements with
  | nil =>
    cases closed
    rfl
  | cons tag tags ih =>
    rw [close_cons] at closed ⊢
    obtain ⟨between, first, others⟩ := Option.bind_eq_some_iff.mp closed
    rw [close_within outer first]
    exact ih others

theorem Balanced.closeAll_tags {text : Text} (balanced : Balanced text) (elements : List Text) :
    closeAll elements (tags text) = some elements :=
  closeAll_within elements balanced.closed

/-- By how many elements a tag goes further in. -/
def Tag.depth : Tag → Int
  | .opens _ => 1
  | .closes _ => -1
  | .alone => 0

def depth : List Tag → Int
  | [] => 0
  | tag :: tags => tag.depth + depth tags

@[simp] theorem depth_nil : depth [] = 0 := rfl

@[simp] theorem depth_cons (tag : Tag) (tags : List Tag) :
    depth (tag :: tags) = tag.depth + depth tags := rfl

@[simp] theorem depth_append (first second : List Tag) :
    depth (first ++ second) = depth first + depth second := by
  induction first with
  | nil => simp
  | cons tag first ih => rw [List.cons_append, depth_cons, depth_cons, ih, Int.add_assoc]

theorem length_close {elements after : List Text} {tag : Tag} (closed : close elements tag = some after) :
    (after.length : Int) = elements.length + tag.depth := by
  cases tag with
  | alone =>
    cases closed
    simp [Tag.depth]
  | opens name =>
    cases closed
    simp [Tag.depth]
  | closes name =>
    cases elements with
    | nil => cases closed
    | cons innermost elements =>
      simp only [close] at closed
      split at closed
      · cases closed
        simp only [Tag.depth, List.length_cons]
        omega
      · cases closed

theorem length_closeAll {elements after : List Text} {tags : List Tag}
    (closed : closeAll elements tags = some after) :
    (after.length : Int) = elements.length + depth tags := by
  induction tags generalizing elements with
  | nil =>
    cases closed
    simp
  | cons tag tags ih =>
    obtain ⟨between, first, others⟩ := Option.bind_eq_some_iff.mp closed
    have here := length_close first
    have rest := ih others
    rw [depth_cons]
    omega

theorem Balanced.depth_eq {text : Text} (balanced : Balanced text) : depth (tags text) = 0 := by
  simpa using (length_closeAll balanced.closed).symm

end Closing

end Transclusion.Markup
