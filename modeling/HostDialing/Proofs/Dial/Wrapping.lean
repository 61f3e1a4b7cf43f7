import HostDialing.Error
import Mathlib.Logic.Function.Iterate

/-!
# Errors handed on

A dial error goes through code that knows only I/O errors as the I/O error that carries it, and
comes back as a failure to connect. Any number of such layers show the message and the causes of the
error at the bottom (`DialError.Within`). One conversion undoes the other on what it has made, so an
error that is handed on again and again is the one that was handed on once
(`DialError.wrapped_again_and_again`): all that is lost is what kind of dial error it was, and that
can be read off the error inside.
-/

namespace HostDialing

/-- An error at the bottom of layers, each of which is a failure to connect with an I/O error, of
whatever kind, that carries the next. -/
inductive DialError.Within (e : DialError) : DialError → Prop
  | bottom : Within e e
  | layer (kind : IoError.Kind) {w : DialError} :
    Within e w → Within e (.connect (.carrying kind w))

theorem DialError.Within.message {e w : DialError} (h : Within e w) : w.message = e.message := by
  induction h with
  | bottom => rfl
  | layer kind _ ih => rw [DialError.message, IoError.message, ih]

theorem DialError.Within.causes {e w : DialError} (h : Within e w) : w.causes = e.causes := by
  induction h with
  | bottom => rfl
  | layer kind _ ih => rw [DialError.causes, IoError.causes, ih]

/-- A dial error is the connector's own, or it is carried. -/
theorem DialError.toIoError_cases (e : DialError) :
    (∃ io, e = .connect io) ∨ ∃ kind, e.toIoError = .carrying kind e := by
  cases e with
  | connect io => exact .inl ⟨io, rfl⟩
  | resolution e => cases e <;> exact .inr ⟨_, rfl⟩
  | _ => exact .inr ⟨_, rfl⟩

/-- The connector's own error is left as it is, any other is put into one layer. -/
theorem DialError.wrapped_cases (e : DialError) :
    e.wrapped = e ∨ ∃ kind, e.wrapped = .connect (.carrying kind e) := by
  rcases e.toIoError_cases with ⟨io, rfl⟩ | ⟨kind, h⟩
  · exact .inl rfl
  · exact .inr ⟨kind, by rw [wrapped, h]⟩

theorem DialError.wrapped_within (e : DialError) : Within e e.wrapped := by
  rcases e.wrapped_cases with h | ⟨kind, h⟩
  · rw [h]
    exact .bottom
  · rw [h]
    exact .layer kind .bottom

theorem DialError.toIoError_wrapped (e : DialError) : e.wrapped.toIoError = e.toIoError := rfl

theorem DialError.wrapped_wrapped (e : DialError) : e.wrapped.wrapped = e.wrapped := by
  rw [wrapped, toIoError_wrapped, ← wrapped]

theorem DialError.iterate_wrapped (e : DialError) (n : ℕ) :
    wrapped^[n + 1] e = e.wrapped := by
  rw [Function.iterate_succ_apply, Function.iterate_fixed e.wrapped_wrapped]

/-- A conversion shows what the failure to connect made of it shows. -/
theorem DialError.message_toIoError (e : DialError) : e.toIoError.message = e.message :=
  e.wrapped_within.message

theorem DialError.causes_toIoError (e : DialError) : e.toIoError.causes = e.causes :=
  e.wrapped_within.causes

/-- An error that is handed on any number of times is the one that was handed on once, with the
message and the causes of the error itself, and with its I/O error, which carries it or is the
connector's own. So are the message and the causes of that I/O error, and those behind any other
layers. What the error was about is said only inside: nothing that was handed on is taken for an
address that does not parse, for a failed resolution, of whichever host, or for a cancelled dial. -/
theorem DialError.wrapped_again_and_again (e : DialError) (n : ℕ) :
    let w := wrapped^[n + 1] e
    w = e.wrapped
      ∧ (w.message = e.message ∧ w.causes = e.causes)
      ∧ w.toIoError = e.toIoError
      ∧ (e.toIoError.message = e.message ∧ e.toIoError.causes = e.causes)
      ∧ ((∃ io, e = .connect io ∧ e.toIoError = io) ∨ e.toIoError.carried = some e)
      ∧ (w.isAddressFormat = false ∧ w.isResolution = false ∧ w.isCancelled = false
        ∧ w.host? = none)
      ∧ ∀ layered, Within e layered → layered.message = e.message ∧ layered.causes = e.causes := by
  intro w
  have hw : w = e.wrapped := e.iterate_wrapped n
  rw [hw]
  refine ⟨rfl, ⟨e.wrapped_within.message, e.wrapped_within.causes⟩, e.toIoError_wrapped,
    ⟨e.message_toIoError, e.causes_toIoError⟩, ?_, ⟨rfl, rfl, rfl, rfl⟩,
    fun layered h => ⟨h.message, h.causes⟩⟩
  rcases e.toIoError_cases with ⟨io, rfl⟩ | ⟨kind, h⟩
  · exact .inl ⟨io, rfl, rfl⟩
  · exact .inr (by rw [h]; rfl)

/-- The resolver's own error is a dial error that was handed on. -/
example :
    let refused : IoError := .reported .other "query refused" ["zone locked"]
    let inner : DialError := .resolution (.lookup "a" refused)
    let outer : DialError := .resolution (.lookup "b" inner.toIoError)
    (DialError.wrapped^[3] outer).message = "lookup b: lookup a: query refused"
      ∧ (DialError.wrapped^[3] outer).causes
        = ["lookup a: query refused", "query refused", "zone locked"] := by
  decide

end HostDialing
