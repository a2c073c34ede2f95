import FeeWatch.Proofs.Setting

/-! Why a datum gives no number, or no text.

A datum of the wrong kind, and a text that writes no number, are misfits by kind and by value. Two
others are by range: an infinity gives no whole number (`whole_failsOnly`), and a whole number may be
too great for a double (`real_failsOnly`). A datum is not written if a whole number in it has too
many digits (`written?_failsOnly`). -/
namespace FeeWatch.Datum

open FeeWatch.Number (Binary)

/-- Whether a misfit is taken for a fault of the settings. -/
def Misfit.IsPlain (m : Misfit) : Prop := m.family = .value ∨ m.family = .kind

theorem readInt_failsOnly (s : String) :
    FailsOnly (fun f => numberFamily f = .value) (Number.readInt s) := by
  unfold Number.readInt
  dsimp only
  split
  · exact FailsOnly.ite (fun _ => .error rfl) fun _ =>
      FailsOnly.ite (fun _ => .ok _) fun _ => .error rfl
  · exact .error rfl

theorem readFloat_failsOnly (s : String) :
    FailsOnly (fun f => numberFamily f = .value) (Number.readFloat s) := by
  unfold Number.readFloat
  dsimp only
  split
  · exact .ok _
  · exact .error rfl

theorem ofOctets_failsOnly {α : Type} {read : String → Except Number.Fault α}
    {unread : String → Number.Fault}
    (hread : ∀ s, FailsOnly (fun f => numberFamily f = .value) (read s))
    (hunread : ∀ s, numberFamily (unread s) = .value) (octets : List Nat) :
    FailsOnly (fun f => numberFamily f = .value) (ofOctets read unread octets) := by
  refine FailsOnly.ite (fun _ => FailsOnly.mapError ((hread _).mono fun f hf => ?_)) fun _ =>
    .error (hunread _)
  cases f <;> exact hf

/-- A datum gives no whole number for a reason that is a setting's fault, unless it is infinite. -/
theorem whole_failsOnly (d : Datum) :
    FailsOnly (fun m => m.IsPlain ∨ m = .number .infinityToInteger ∧
      ∃ negative, d = .float (.infinite negative)) d.whole := by
  refine FailsOnly.mapError ?_
  cases d with
  | scalar s =>
    cases s with
    | bool b => exact .ok _
    | int n => exact .ok _
    | float x =>
      cases x with
      | nan => exact .error (.inl (.inl rfl))
      | infinite negative => exact .error (.inr ⟨rfl, negative, rfl⟩)
      | finite s m e => exact .ok _
    | text s => exact (readInt_failsOnly s).mono fun f hf => .inl (.inl hf)
    | bytes octets =>
      exact (ofOctets_failsOnly readInt_failsOnly (fun _ => rfl) octets).mono fun f hf =>
        .inl (.inl hf)
    | _ => exact .error (.inl (.inr rfl))
  | _ => exact .error (.inl (.inr rfl))

/-- A datum gives no double for a reason that is a setting's fault, unless it is a whole number too
great for one. -/
theorem real_failsOnly (d : Datum) :
    FailsOnly (fun m => m.IsPlain ∨ m = .number .integerToFloat ∧
      ∃ n negative, d = .int n ∧ Binary.ofInt n = .infinite negative) d.real := by
  refine FailsOnly.mapError ?_
  cases d with
  | scalar s =>
    cases s with
    | bool b => exact .ok _
    | int n =>
      show FailsOnly _ (Binary.ofInt? n)
      unfold Binary.ofInt?
      split
      · next negative h => exact .error (.inr ⟨rfl, n, negative, rfl, h⟩)
      · exact .ok _
    | float x => exact .ok _
    | text s => exact (readFloat_failsOnly s).mono fun f hf => .inl (.inl hf)
    | bytes octets =>
      exact (ofOctets_failsOnly readFloat_failsOnly (fun _ => rfl) octets).mono fun f hf =>
        .inl (.inl hf)
    | _ => exact .error (.inl (.inr rfl))
  | _ => exact .error (.inl (.inr rfl))

theorem written?_failsOnly (d : Datum) :
    FailsOnly (fun m => m = .number .unwritable ∧ d.isOverlong = true) d.written? :=
  FailsOnly.ite (fun h => .error ⟨rfl, h⟩) fun _ => .ok _

end FeeWatch.Datum
