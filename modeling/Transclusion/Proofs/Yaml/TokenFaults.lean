import Transclusion.Proofs.Yaml.FaultCauses
import Transclusion.Yaml.Token

/-!
Why a token is not read: as for the scalars, whatever token it is.
-/

namespace Transclusion.Yaml.TokenSource

variable {text : Text} {obstacle : Option Fault} {place : Place} {source : TokenSource}

/-- A step goes on in the text. -/
abbrev Steps (text : Text) (obstacle : Option Fault) (result : Except Fault TokenSource) : Prop :=
  Meets (Cause text obstacle) (fun source => Within text obstacle source.place) result

section Candidates

theorem steps_dropStale (within : Within text obstacle source.place) :
    Steps text obstacle source.dropStale := by
  rw [dropStale]
  dsimp only
  split
  · exact Cause.form rfl
  · exact within

theorem steps_dropCandidate (source : TokenSource) (within : Within text obstacle source.place) :
    Steps text obstacle source.dropCandidate := by
  rw [dropCandidate]
  split
  · split
    · exact Cause.form rfl
    · exact within
  · exact within

theorem steps_saveCandidate (within : Within text obstacle source.place) :
    Steps text obstacle source.saveCandidate := by
  rw [saveCandidate]
  split
  · exact (steps_dropCandidate _ within).bind fun _ within => within
  · exact within

theorem place_closeBlocks (column : Int) (outer : List Int) (source : TokenSource) :
    (closeBlocks column outer source).place = source.place := by
  induction outer generalizing source with
  | nil => rfl
  | cons indent outer ih =>
    rw [closeBlocks]
    split
    · exact ih _
    · rfl

@[simp] theorem place_unwind (column : Int) (source : TokenSource) :
    (source.unwind column).place = source.place := by
  rw [unwind]
  split
  · rfl
  · exact place_closeBlocks ..

@[simp] theorem place_deepen (column : Nat) (source : TokenSource) :
    (source.deepen column).2.place = source.place := by
  rw [deepen]
  split <;> rfl

theorem within_skipBlank (fuel : Nat) (within : Within text obstacle source.place) :
    Within text obstacle (source.skipBlank fuel).place := by
  induction fuel generalizing source with
  | zero => exact within
  | succ fuel ih =>
    have after : Within text obstacle (if source.place.skipSpaces.sees '#' then
        source.place.skipSpaces.skipLine else source.place.skipSpaces) := by
      split
      · exact within.skipSpaces.skipLine
      · exact within.skipSpaces
    simp only [skipBlank]
    by_cases ended : ((if source.place.skipSpaces.sees '#' then source.place.skipSpaces.skipLine
        else source.place.skipSpaces).peek.map isBreak).getD false = true
    · rw [if_pos ended]
      exact ih after.lineBreak
    · rw [if_neg ended]
      exact after

end Candidates

section Marks

theorem steps_streamEnd (within : Within text obstacle source.place) :
    Steps text obstacle source.streamEnd :=
  (steps_dropCandidate _ (by rwa [place_unwind])).bind fun _ within => within

theorem steps_documentMarker (token : Token) (within : Within text obstacle source.place) :
    Steps text obstacle (documentMarker token source) :=
  (steps_dropCandidate _ (by rwa [place_unwind])).bind fun _ within => within.forward 3

theorem steps_flowStart (token : Token) (within : Within text obstacle source.place) :
    Steps text obstacle (flowStart token source) :=
  (steps_saveCandidate within).bind fun _ within => within.next

theorem steps_flowEnd (token : Token) (within : Within text obstacle source.place) :
    Steps text obstacle (flowEnd token source) :=
  (steps_dropCandidate _ within).bind fun _ within => within.next

theorem steps_flowEntry (within : Within text obstacle source.place) :
    Steps text obstacle source.flowEntry :=
  (steps_dropCandidate ({ source with keyAllowed := true }) within).bind
    fun _ within => within.next

theorem steps_openBlock (token : Token) (within : Within text obstacle source.place) :
    Steps text obstacle (source.openBlock token) := by
  rw [openBlock]
  split
  · exact within
  · split
    · have deeper : Within text obstacle (source.deepen source.place.column).2.place := by
        rwa [place_deepen]
      dsimp only
      split
      · exact deeper
      · exact deeper
    · exact Cause.form rfl

theorem steps_blockEntry (within : Within text obstacle source.place) :
    Steps text obstacle source.blockEntry :=
  (steps_openBlock _ within).bind fun opened within =>
    (steps_dropCandidate ({ opened with keyAllowed := true }) within).bind
      fun _ within => within.next

theorem steps_explicitKey (within : Within text obstacle source.place) :
    Steps text obstacle source.explicitKey :=
  (steps_openBlock _ within).bind fun opened within =>
    (steps_dropCandidate ({ opened with keyAllowed := !opened.inFlow }) within).bind
      fun _ within => within.next

theorem steps_value (within : Within text obstacle source.place) :
    Steps text obstacle source.value := by
  rw [value]
  split
  · next candidate _ =>
    dsimp only
    split
    · exact within.next
    · have deeper : Within text obstacle
          (source.withoutCandidate.deepen candidate.column).2.place := by
        rwa [place_deepen]
      exact deeper.next
  · exact (steps_openBlock _ within).bind fun opened within =>
      (steps_dropCandidate ({ opened with keyAllowed := !opened.inFlow }) within).bind
        fun _ within => within.next

end Marks

section Words

theorem reads_readNatural (within : Within text obstacle place) :
    Reads text obstacle (readNatural place) := by
  rw [readNatural]
  split
  · exact within.refusal
  · exact within.forward _

theorem reads_readHandle (within : Within text obstacle place) :
    Reads text obstacle (readHandle place) := by
  rw [readHandle]
  split
  · dsimp only
    split
    · exact within.next
    · split
      · exact (within.next.forward _).next
      · exact (within.next.forward _).refusal
  · exact within.refusal

theorem readOctets_meets (fuel : Nat) (rest : Text) :
    Meets (Cause text obstacle) (fun _ => True) (readOctets fuel rest) := by
  induction fuel generalizing rest with
  | zero => exact Cause.form rfl
  | succ fuel ih =>
    unfold readOctets
    split
    · split
      · exact (ih _).bind fun _ _ => trivial
      · exact Cause.form rfl
    · exact Cause.form rfl
    · trivial

theorem reads_readUri (fuel : Nat) (within : Within text obstacle place) :
    Reads text obstacle (readUri fuel place) := by
  induction fuel generalizing place with
  | zero => exact Cause.form rfl
  | succ fuel ih =>
    have after := within.forward (place.ahead fun c => isUriChar c && c != '%').length
    rw [readUri]
    dsimp only
    split
    · refine (readOctets_meets _ _).bind fun found _ => ?_
      split
      · exact (ih (after.forward _)).bind fun _ within => within
      · exact Cause.form rfl
    · exact after

theorem reads_readSomeUri (within : Within text obstacle place) :
    Reads text obstacle (readSomeUri place) := by
  refine (reads_readUri _ within).bind fun found after => ?_
  dsimp only
  split
  · exact after.refusal
  · exact after

theorem reads_readDirective (within : Within text obstacle place) :
    Reads text obstacle (readDirective place) := by
  have after := within.forward (place.ahead isHandleChar).length
  rw [readDirective]
  dsimp only
  split
  · exact after.refusal
  · split
    · refine (reads_readNatural after.skipSpaces).bind fun found within => ?_
      split
      · refine (reads_readNatural within.next).bind fun _ within => ?_
        split
        · exact within
        · exact Cause.form rfl
      · exact within.refusal
    · split
      · refine (reads_readHandle after.skipSpaces).bind fun found within => ?_
        split
        · refine (reads_readSomeUri within.skipSpaces).bind fun _ within => ?_
          split
          · exact within
          · exact Cause.form rfl
        · exact within.refusal
      · exact after.skipLine

theorem steps_directive (within : Within text obstacle source.place) :
    Steps text obstacle source.directive :=
  (steps_dropCandidate _ (by rwa [place_unwind])).bind fun _ within =>
    (reads_readDirective within.next).bind fun _ within =>
      (ScalarText.restOfLine_meets within).bind fun _ within => within

theorem reads_readAnchor (within : Within text obstacle place) :
    Reads text obstacle (readAnchor place) := by
  rw [readAnchor]
  split
  · exact (within.forward _).refusal
  · exact within.forward _

theorem steps_anchored (token : Text → Token) (within : Within text obstacle source.place) :
    Steps text obstacle (anchored token source) :=
  (steps_saveCandidate within).bind fun _ within =>
    (reads_readAnchor within.next).bind fun _ within => within

theorem reads_readTag (within : Within text obstacle place) :
    Reads text obstacle (readTag place) := by
  have ended : ∀ (token : Token) {place : Place}, Within text obstacle place →
      Reads text obstacle
        (if endsWord place then .ok (token, place) else .error .token : Except Fault (Token × Place)) := by
    intro token place within
    split
    · exact within
    · exact Cause.form rfl
  rw [readTag]
  dsimp only
  split
  · refine (reads_readSomeUri within.next.next).bind fun found within => ?_
    split
    · exact ended _ within.next
    · exact within.refusal
  · split
    · exact ended _ within.next
    · split
      · exact (reads_readHandle within).bind fun _ within =>
          (reads_readSomeUri within).bind fun _ within => ended _ within
      · exact (reads_readSomeUri within.next).bind fun _ within => ended _ within

theorem steps_tagged (within : Within text obstacle source.place) :
    Steps text obstacle source.tagged :=
  (steps_saveCandidate within).bind fun _ within =>
    (reads_readTag within).bind fun _ within => within

end Words

section Scalars

theorem steps_blockScalar (folded : Bool) (within : Within text obstacle source.place) :
    Steps text obstacle (blockScalar folded source) :=
  (steps_dropCandidate ({ source with keyAllowed := true }) within).bind
    fun _ within => (ScalarText.reads_block folded _ within).bind fun _ within => within

theorem steps_quotedScalar (double : Bool) (within : Within text obstacle source.place) :
    Steps text obstacle (quotedScalar double source) :=
  (steps_saveCandidate within).bind fun _ within =>
    (ScalarText.reads_quoted double within).bind fun _ within => within

theorem steps_plainScalar (within : Within text obstacle source.place) :
    Steps text obstacle source.plainScalar :=
  (steps_saveCandidate within).bind fun _ within => ScalarText.within_plain _ _ within

end Scalars

section Runs

theorem steps_dispatch (c : Char) (within : Within text obstacle source.place) :
    Steps text obstacle (dispatch c source) := by
  have either : ∀ {condition : Prop} [Decidable condition] {first second : Except Fault TokenSource},
      Steps text obstacle first → Steps text obstacle second →
      Steps text obstacle (if condition then first else second) := by
    intro condition _ first second holds otherwise
    split
    · exact holds
    · exact otherwise
  exact either (steps_directive within) <| either (steps_documentMarker _ within) <|
    either (steps_documentMarker _ within) <| either (steps_flowStart _ within) <|
    either (steps_flowStart _ within) <| either (steps_flowEnd _ within) <|
    either (steps_flowEnd _ within) <| either (steps_flowEntry within) <|
    either (steps_blockEntry within) <| either (steps_explicitKey within) <|
    either (steps_value within) <| either (steps_anchored _ within) <|
    either (steps_anchored _ within) <| either (steps_tagged within) <|
    either (steps_blockScalar _ within) <| either (steps_blockScalar _ within) <|
    either (steps_quotedScalar _ within) <| either (steps_quotedScalar _ within) <|
    either (steps_plainScalar within) (Cause.form rfl)

theorem steps_fetch (within : Within text obstacle source.place) :
    Steps text obstacle source.fetch := by
  have here := within_skipBlank (source.place.rest.length + 1) within
  refine here.check.bind fun _ _ => (steps_dropStale here).bind fun kept within => ?_
  have unwound : Within text obstacle (kept.unwind (Int.ofNat kept.place.column)).place := by
    rwa [place_unwind]
  dsimp only
  split
  · exact steps_streamEnd unwound
  · refine (steps_dispatch _ unwound).bind fun _ within => within.check.bind fun _ _ => within

theorem steps_settle (fuel : Nat) (within : Within text obstacle source.place) :
    Steps text obstacle (settle fuel source) := by
  induction fuel generalizing source with
  | zero => exact Cause.form rfl
  | succ fuel ih =>
    rw [settle]
    split
    · exact within
    · split
      · exact (steps_fetch within).bind fun _ within => ih within
      · refine (steps_dropStale within).bind fun kept within => ?_
        split
        · exact (steps_fetch within).bind fun _ within => ih within
        · exact within

theorem first_meets (within : Within text obstacle source.place) :
    Meets (Cause text obstacle) (fun found => Within text obstacle found.2.place) source.first :=
  (steps_settle _ within).bind fun _ within => within

end Runs

end Transclusion.Yaml.TokenSource
