import Transclusion.Proofs.Folding

/-!
Texts in another case. Readers, keys and classes of characters do not see the case of ASCII
letters, so a marker is read off a text wherever one is read off the text in another case.
-/

namespace Transclusion

namespace Text

/-- Equal but for the case of ASCII letters. -/
def Recased (first second : Text) : Prop := first.map Char.toLower = second.map Char.toLower

instance (first second : Text) : Decidable (Recased first second) := by
  unfold Recased
  infer_instance

@[refl] theorem Recased.refl (text : Text) : Recased text text := rfl

theorem Recased.symm {first second : Text} (same : Recased first second) : Recased second first :=
  Eq.symm same

theorem Recased.append {first second third fourth : Text} (front : Recased first second)
    (back : Recased third fourth) : Recased (first ++ third) (second ++ fourth) := by
  unfold Recased at *
  rw [List.map_append, List.map_append, front, back]

theorem recased_append_iff {first second text : Text} :
    Recased (first ++ second) text ↔
      ∃ front back, text = front ++ back ∧ Recased first front ∧ Recased second back := by
  constructor
  · intro same
    have parts : text.map Char.toLower = first.map Char.toLower ++ second.map Char.toLower := by
      rw [← List.map_append]
      exact same.symm
    obtain ⟨front, back, rfl, before, after⟩ := List.map_eq_append_iff.mp parts
    exact ⟨front, back, rfl, before.symm, after.symm⟩
  · rintro ⟨front, back, rfl, before, after⟩
    exact before.append after

theorem recased_cons_iff {c : Char} {rest text : Text} :
    Recased (c :: rest) text ↔
      ∃ d others, text = d :: others ∧ c.toLower = d.toLower ∧ Recased rest others := by
  constructor
  · intro same
    obtain ⟨d, others, rfl, first, later⟩ := List.map_eq_cons_iff.mp same.symm
    exact ⟨d, others, rfl, first.symm, later.symm⟩
  · rintro ⟨d, others, rfl, first, later⟩
    exact List.cons_eq_cons.mpr ⟨first, later⟩

theorem eq_nil_of_recased {text : Text} (same : Recased [] text) : text = [] :=
  List.map_eq_nil_iff.mp same.symm

/-- What readers and keys see of a character is what they see of its lower case. -/
structure Caseless (c : Char) : Prop where
  key : caseKey c.toLower = caseKey c
  folds : folded c.toLower = folded c
  word : isWord c.toLower = isWord c
  blank : isBlank c.toLower = isBlank c
  space : isInlineSpace c.toLower = isInlineSpace c
  angle : isAngle c.toLower = isAngle c
  letter : isLetterForm c.toLower = isLetterForm c
  element : isElementTail c.toLower = isElementTail c
  plain : isPlainNameChar c.toLower = isPlainNameChar c
  opens : (c.toLower == '<') = (c == '<')
  closes : (c.toLower == '>') = (c == '>')
  slash : (c.toLower == '/') = (c == '/')

instance (c : Char) : Decidable (Caseless c) :=
  decidable_of_iff (_ ∧ _ ∧ _ ∧ _ ∧ _ ∧ _ ∧ _ ∧ _ ∧ _ ∧ _ ∧ _ ∧ _)
    ⟨fun ⟨key, folds, word, blank, space, angle, letter, element, plain, opens, closes, slash⟩ =>
      ⟨key, folds, word, blank, space, angle, letter, element, plain, opens, closes, slash⟩,
    fun seen => ⟨seen.key, seen.folds, seen.word, seen.blank, seen.space, seen.angle, seen.letter,
      seen.element, seen.plain, seen.opens, seen.closes, seen.slash⟩⟩

theorem caseless (c : Char) : Caseless c := by
  by_cases ascii : c.toNat < 128
  · exact forall_ascii Caseless (by decide +kernel) ascii
  -- what is no ASCII letter is its own lower case
  · have notUpper : ¬ (c.val ≥ 'A'.val ∧ c.val ≤ 'Z'.val) := by
      intro upper
      have code := isUpper_iff.mp (show c.isUpper = true from decide_eq_true upper)
      omega
    have itself : c.toLower = c := dif_neg notUpper
    constructor <;> simp [itself]

section Keys

variable {Key : Type} {key : Char → Key} (blind : ∀ c : Char, key c.toLower = key c)
  {first second : Text}

include blind

theorem eq_of_recased {c d : Char} (same : c.toLower = d.toLower) : key c = key d := by
  rw [← blind, same, blind]

theorem Recased.map_eq (same : Recased first second) : first.map key = second.map key := by
  have lower : ∀ text : Text, (text.map Char.toLower).map key = text.map key := by
    intro text
    rw [List.map_map]
    exact List.map_congr_left fun c _ => blind c
  rw [← lower, same, lower]

theorem Recased.forall_mem {value : Key} (same : Recased first second)
    (all : ∀ c ∈ first, key c = value) : ∀ c ∈ second, key c = value := by
  intro d member
  have image : key d ∈ first.map key := by
    rw [same.map_eq blind]
    exact List.mem_map_of_mem member
  obtain ⟨c, inside, equal⟩ := List.mem_map.mp image
  rw [← equal, all c inside]

end Keys

section Recased

variable {first second : Text} (same : Recased first second)

include same

theorem Recased.spells : Spells first second := same.map_eq fun c => (caseless c).key

theorem Recased.fold_eq : fold first = fold second := by
  rw [fold, fold, List.flatMap_def, List.flatMap_def,
    same.map_eq fun c => (caseless c).folds]

theorem Recased.sanitize : Recased (sanitize first) (sanitize second) := by
  induction first generalizing second with
  | nil => rw [eq_nil_of_recased same]
  | cons c first ih =>
    obtain ⟨d, others, rfl, head, later⟩ := recased_cons_iff.mp same
    have kept := eq_of_recased (fun c => (caseless c).plain) head
    simp only [Transclusion.sanitize, List.filter_cons, ← kept]
    split
    · exact recased_cons_iff.mpr ⟨d, _, rfl, head, ih later⟩
    · exact ih later

theorem Recased.closesWord_eq : closesWord first = closesWord second := by
  cases first with
  | nil => rw [eq_nil_of_recased same]
  | cons c first =>
    obtain ⟨d, others, rfl, head, _⟩ := recased_cons_iff.mp same
    rw [closesWord, closesWord, eq_of_recased (fun c => (caseless c).word) head]

theorem Recased.opensWord_lastOr {previous previous' : Option Char}
    (side : opensWord previous = opensWord previous') :
    opensWord (Cutting.lastOr previous first) = opensWord (Cutting.lastOr previous' second) := by
  induction first generalizing second previous previous' with
  | nil => rwa [eq_nil_of_recased same]
  | cons c first ih =>
    obtain ⟨d, others, rfl, head, later⟩ := recased_cons_iff.mp same
    rw [Cutting.lastOr_cons, Cutting.lastOr_cons]
    exact ih later (by rw [opensWord, opensWord, eq_of_recased (fun c => (caseless c).word) head])

end Recased

end Text

open Text

section Tags

theorem IsElement.recased {element other : Text} (named : IsElement element)
    (same : Recased element other) : IsElement other := by
  cases element with
  | nil => exact absurd named id
  | cons c rest =>
    obtain ⟨d, others, rfl, head, later⟩ := recased_cons_iff.mp same
    exact ⟨by rw [← eq_of_recased (fun c => (caseless c).letter) head]; exact named.1,
      later.forall_mem (fun c => (caseless c).element) named.2⟩

-- A sign has no case.
theorem exists_of_recased_sign {sign : Char} (blind : ∀ c : Char, (c.toLower == sign) = (c == sign))
    {rest text : Text} (same : Recased (sign :: rest) text) :
    ∃ others, text = sign :: others ∧ Recased rest others := by
  obtain ⟨d, others, rfl, head, later⟩ := recased_cons_iff.mp same
  have equal : (sign == sign) = (d == sign) := @eq_of_recased Bool (· == sign) blind sign d head
  exact ⟨others, by simpa using equal, later⟩

theorem eq_of_recased_close {text : Text} (same : Recased ['>'] text) : text = ['>'] := by
  obtain ⟨others, rfl, later⟩ := exists_of_recased_sign (fun c => (caseless c).closes) same
  rw [eq_nil_of_recased later]

theorem IsOpeningTag.recased {tag other : Text} (opens : IsOpeningTag tag)
    (same : Recased tag other) : IsOpeningTag other := by
  cases opens with
  | @plain element named =>
    obtain ⟨front, back, rfl, before, after⟩ := recased_append_iff.mp same
    obtain ⟨element', rfl, inside⟩ := exists_of_recased_sign (fun c => (caseless c).opens) before
    rw [eq_of_recased_close after]
    exact .plain (named.recased inside)
  | @attributed element attributes blank named apart flat =>
    obtain ⟨front, back, rfl, before, after⟩ := recased_append_iff.mp same
    obtain ⟨opening, further, rfl, opens, behind⟩ := recased_append_iff.mp before
    obtain ⟨element', rfl, inside⟩ := exists_of_recased_sign (fun c => (caseless c).opens) opens
    obtain ⟨blank', attributes', rfl, space, among⟩ := recased_cons_iff.mp behind
    rw [eq_of_recased_close after]
    have apart' : isBlank blank' = true := by
      rw [← eq_of_recased (fun c => (caseless c).blank) space]
      exact apart
    exact .attributed (named.recased inside) apart'
      (among.forall_mem (fun c => (caseless c).angle) flat)

theorem IsClosingTag.recased {ending other : Text} (closes : IsClosingTag ending)
    (same : Recased ending other) : IsClosingTag other := by
  cases closes with
  | @tag spaces element blanks before named after =>
    obtain ⟨front, back, rfl, same, last⟩ := recased_append_iff.mp same
    obtain ⟨front, blanks', rfl, same, behind⟩ := recased_append_iff.mp same
    obtain ⟨spaces', tag, rfl, ahead, same⟩ := recased_append_iff.mp same
    obtain ⟨slashed, rfl, slash⟩ := exists_of_recased_sign (fun c => (caseless c).opens) same
    obtain ⟨element', rfl, inside⟩ := exists_of_recased_sign (fun c => (caseless c).slash) slash
    rw [eq_of_recased_close last]
    exact .tag (ahead.forall_mem (fun c => (caseless c).space) before) (named.recased inside)
      (behind.forall_mem (fun c => (caseless c).blank) after)

end Tags

section Markers

variable {grammar : Grammar} {word : Text} {previous previous' : Option Char} {text text' rest : Text}
  (side : opensWord previous = opensWord previous')

include side

/-- A token stands wherever a token stands whose parts are the same in another case. -/
theorem Token.opener_recased {rest' : Text} {token other : Token}
    (stands : (Token.opener grammar word).At previous text token rest)
    (sameWord : Recased token.word other.word) (sameSeparator : Recased token.separator other.separator)
    (sameName : Recased token.name other.name) (after : Recased rest rest') :
    (Token.opener grammar word).At previous' (other.written ++ rest') other rest' where
  opens := side ▸ stands.opens
  parts := rfl
  word := Eq.trans stands.word sameWord.spells
  separator := stands.separator.imp (·.trans sameSeparator.spells) (·.trans sameSeparator.spells)
  name := IsName.of_spells stands.name sameName.spells
  closes := after.closesWord_eq ▸ stands.closes

theorem Token.exists_opener_recased {token : Token}
    (stands : (Token.opener grammar word).At previous text token rest) (same : Recased text text') :
    ∃ other rest', (Token.opener grammar word).At previous' text' other rest' ∧ Recased rest rest' := by
  rw [stands.parts, Token.written] at same
  obtain ⟨front, rest', rfl, same, after⟩ := recased_append_iff.mp same
  obtain ⟨front, name', rfl, same, sameName⟩ := recased_append_iff.mp same
  obtain ⟨word', separator', rfl, sameWord, sameSeparator⟩ := recased_append_iff.mp same
  have here : (Token.opener grammar word).At previous'
      (Token.written ⟨word', separator', name'⟩ ++ rest') ⟨word', separator', name'⟩ rest' :=
    Token.opener_recased side stands sameWord sameSeparator sameName after
  exact ⟨_, rest', here, after⟩

/-- Where a marker stands in a text, one stands in the text in another case. -/
theorem Marker.exists_at_recased {marker : Marker}
    (here : Marker.At (Token.opener grammar word).At previous text marker rest)
    (same : Recased text text') :
    ∃ other rest', Marker.At (Token.opener grammar word).At previous' text' other rest' := by
  cases here with
  | bare stands =>
    obtain ⟨token, rest', stands', _⟩ := Token.exists_opener_recased side stands same
    exact ⟨Marker.bare token, rest', .bare stands'⟩
  | @wrapped tag spaces after token ending _ opens apart stands closes =>
    obtain ⟨front, after', rfl, same, later⟩ := recased_append_iff.mp same
    obtain ⟨tag', spaces', rfl, sameTag, sameSpaces⟩ := recased_append_iff.mp same
    obtain ⟨token', behind, stands', ends⟩ :=
      Token.exists_opener_recased (sameSpaces.opensWord_lastOr rfl) stands later
    obtain ⟨ending', rest', rfl, sameEnding, _⟩ := recased_append_iff.mp ends
    exact ⟨⟨some (tag' ++ spaces'), token', ending'⟩, rest',
      .wrapped (opens.recased sameTag) (sameSpaces.forall_mem (fun c => (caseless c).space) apart) stands'
        (closes.recased sameEnding)⟩

end Markers

end Transclusion
