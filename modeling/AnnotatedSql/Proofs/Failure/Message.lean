import AnnotatedSql.Failure.Basic
import Mathlib.Tactic.Basic

/-!
# Messages of failures

A failure has a message unless what it shows cannot be shown. A failure that is to tell what another
one says gives way to the failure of making the message, which is none of the library's own.
-/

set_option autoImplicit false

namespace AnnotatedSql.Failure

variable {f e fault : Failure}

/-- A text goes into a failure. -/
@[simp] theorem saying_ok (text : String) (tell : String → Failure) :
    saying (.ok text) tell = tell text := rfl

/-- No text goes into a failure where making it fails. -/
@[simp] theorem saying_error (fault : Failure) (tell : String → Failure) :
    saying (.error fault) tell = fault := rfl

/-- A failure has a message when nothing is at fault with it. -/
theorem text_of_messageFault?_eq_none (h : f.messageFault? = none) : f.text = .ok f.message := by
  rw [text, h]

/-- A failure from outside the library has a message if it shows nothing that is too long. -/
theorem text_of_areShown (hdetail : f.detail = none)
    (h : ∀ v ∈ f.plainValues, v.isShowable = true) : f.text = .ok f.message := by
  apply text_of_messageFault?_eq_none
  rw [messageFault?, hdetail]
  exact if_pos (List.all_eq_true.mpr h)

/-- A failure from outside the library has no message if it shows something that is too long. -/
theorem text_of_not_isShowable (hdetail : f.detail = none) {v : Value} (hv : v ∈ f.plainValues)
    (h : v.isShowable = false) : f.text = .error unshowable := by
  have hlong : ¬ f.plainValues.all Value.isShowable = true := by
    intro hall
    rw [List.all_eq_true.mp hall v hv] at h
    cases h
  have hfault : f.messageFault? = some unshowable := by
    rw [messageFault?, hdetail]
    exact if_neg hlong
  rw [text, hfault]

/-- Making a message fails with a failure of one of two kinds: what is shown is no text, or it is
too long. -/
theorem kind_of_text_eq_error (h : e.text = .error fault) :
    fault.kind = .type ∨ fault.kind = .value := by
  unfold text at h
  cases hfault : e.messageFault? with
  | none =>
    rw [hfault] at h
    cases h
  | some found =>
    rw [hfault] at h
    cases h
    unfold messageFault? at hfault
    split at hfault
    · split at hfault
      · cases hfault
      · cases hfault
        exact Or.inr rfl
    · obtain ⟨_, _, rfl⟩ := Option.map_eq_some_iff.mp hfault
      exact Or.inl rfl

/-- The failure of making a message is none of the library's own. -/
theorem isLibrary_of_text_eq_error (h : e.text = .error fault) : fault.kind.isLibrary = false := by
  obtain hkind | hkind := kind_of_text_eq_error h <;> rw [hkind] <;> rfl

/-- The driver's failure is told by an engine error that it caused, if it has a message. -/
theorem engine_of_text {message : String} (h : e.text = .ok message) :
    engine e = ofLibrary .engine ("Database engine error: " ++ message) {} (some e) := by
  rw [engine, h, saying_ok]

/-- In place of an engine error for a failure without a message comes the failure of making that. -/
theorem engine_of_text_error (h : e.text = .error fault) : engine e = fault := by
  rw [engine, h, saying_error]

end AnnotatedSql.Failure
