import FeeWatch.Datum.Basic

/-! Laying one map over another.

Where both maps hold a map under a key, these are laid over each other in turn.
Elsewhere the upper map's value counts, and the lower map's where the upper one has
none. -/
namespace FeeWatch.Config

mutual

/-- A value laid over what stands below it. -/
def overlay (below : Option Datum) : Datum → Datum
  | .map upper =>
    match below with
    | some (.map lower) => .map (merge lower upper)
    | _ => .map upper
  | d => d

/-- The entries of a map laid over those of another, first to last. -/
def merge (lower : List (Scalar × Datum)) : List (Scalar × Datum) → List (Scalar × Datum)
  | [] => lower
  | (k, v) :: rest => merge (Entries.insert k (overlay (Entries.find? k lower) v) lower) rest

end

@[simp] theorem merge_nil (lower : List (Scalar × Datum)) : merge lower [] = lower := by
  simp [merge]

end FeeWatch.Config
